import Intercept.Failure.Negotiation
import Intercept.Transport

/-!
# Failures of the datagram envelope

A datagram goes to the proxy's relay in an envelope that names its destination. Sealing fails if the
destination does not fit into the envelope; opening fails if the envelope is none that can be read.
-/

namespace Intercept.Failure

/-- A failure of sealing or opening an envelope. -/
inductive Framing where
  | unsupportedTransport (transport : Transport)
  | truncated (needed actual : Nat)
  | unsupportedAddressType (tag : UInt8)
  | fragmented (fragment : UInt8)
  | nameTooLong (length : Nat)
  | invalidAddress (reason : String)
deriving DecidableEq

namespace Framing

def kind : Framing → Kind
  | .unsupportedTransport _ => .unsupportedTransport
  | .nameTooLong _ => .nameTooLong
  | .truncated _ _ | .unsupportedAddressType _ | .fragmented _ | .invalidAddress _ =>
    .addressInvalid

def text : Framing → String
  | .unsupportedTransport transport =>
    "unsupported transport for UDP relay framing: " ++ transport.name
  | .truncated needed actual =>
    "truncated UDP envelope: need " ++ Decimal.text needed ++ " bytes, got " ++ Decimal.text actual
  | .unsupportedAddressType tag => "unsupported address type in UDP envelope: " ++ Hex.tagged tag
  | .fragmented fragment =>
    "fragmented UDP envelope (frag=" ++ Decimal.text fragment.toNat ++ ")"
  | .nameTooLong length => Negotiation.nameTooLongText length
  | .invalidAddress reason => "invalid destination: " ++ reason

end Framing

end Intercept.Failure
