import Intercept.Bytes
import Intercept.Failure.Kind
import Intercept.IoFault
import Intercept.Proxy.Phase
import Intercept.Proxy.Reply
import Intercept.Text.Hex

/-!
# Failures of opening a way

A handshake with the proxy fails because the proxy refuses or breaks the protocol, because something
cannot be written in the protocol's fields, because an address cannot be used, because time runs
out, or because the stream fails.
-/

namespace Intercept.Failure

/-- Why an address cannot be used. -/
inductive Negotiation.AddressDefect where
  | octetCount (n : Nat)
  | emptyHost
  | emptyName
  | truncated
  | unknownType (tag : UInt8)
  | unknownBoundType (tag : UInt8)
  | notText
  /-- Without a proxy a name cannot be dialed. -/
  | undialable (address : String)
  /-- Datagrams need a literal destination. -/
  | notLiteral (address : String)
  /-- The relay that the proxy named cannot be resolved. -/
  | unresolvable (name : String) (fault : IoFault)
  /-- The relay that the proxy named has no address of the proxy's family. -/
  | unusableRelay (name : String)
  /-- Any other defect, in words. -/
  | stated (text : String)
deriving DecidableEq

/-- A field of a credential. -/
inductive Negotiation.Field where
  | username
  | password
deriving DecidableEq

/-- A failure of opening a way. -/
inductive Negotiation where
  | versionMismatch (expected actual : UInt8)
  | methodRejected (method : UInt8)
  | authRejected (status : UInt8)
  | credentialTooLong (field : Negotiation.Field) (length : Nat)
  | connectRejected (version code : UInt8)
  | nameTooLong (length : Nat)
  | addressInvalid (defect : Negotiation.AddressDefect)
  | timeout (phase : Proxy.Phase)
  | io (stage : String) (fault : IoFault)
deriving DecidableEq

namespace Negotiation

def AddressDefect.text : AddressDefect → String
  | .octetCount n => Decimal.text n ++ "-byte address is neither IPv4 nor IPv6"
  | .emptyHost => "empty host"
  | .emptyName => "empty domain name"
  | .truncated => "truncated address field"
  | .unknownType tag => "unknown address type " ++ Hex.tagged tag
  | .unknownBoundType tag => "unknown bound address type " ++ Hex.tagged tag
  | .notText => "domain is not UTF-8"
  | .undialable address => "cannot dial " ++ address ++ " directly"
  | .notLiteral address => address ++ " is not a literal address"
  | .unresolvable name fault => "cannot resolve relay " ++ name ++ ": " ++ fault.text
  | .unusableRelay name => "relay " ++ name ++ " has no usable address"
  | .stated text => text

def Field.name : Field → String
  | .username => "username"
  | .password => "password"

def kind : Negotiation → Kind
  | .versionMismatch _ _ => .protocolVersionMismatch
  | .methodRejected _ => .methodRejected
  | .authRejected _ | .credentialTooLong _ _ => .authRejected
  | .connectRejected _ _ => .connectRejected
  | .nameTooLong _ => .nameTooLong
  | .addressInvalid _ => .addressInvalid
  | .timeout _ => .negotiationTimeout
  | .io _ _ => .io

/-- The text about a name that no length octet can count. -/
def nameTooLongText (length : Nat) : String :=
  "domain name too long (" ++ Decimal.text length ++ " bytes, max 255)"

def text : Negotiation → String
  | .versionMismatch expected actual =>
    "protocol version mismatch: expected " ++ Decimal.text expected.toNat ++ ", got "
      ++ Decimal.text actual.toNat
  | .methodRejected method => "method rejected: server selected " ++ Hex.tagged method
  | .authRejected status => "authentication rejected: status " ++ Hex.tagged status
  | .credentialTooLong field length =>
    field.name ++ " too long (" ++ Decimal.text length ++ " bytes, max 255)"
  | .connectRejected version code =>
    "connect rejected: version " ++ Decimal.text version.toNat ++ ", reply " ++ Hex.tagged code
      ++ " (" ++ Proxy.replyText code ++ ")"
  | .nameTooLong length => nameTooLongText length
  | .addressInvalid defect => "invalid address: " ++ defect.text
  | .timeout phase => "negotiation timed out in state " ++ phase.name
  | .io stage fault => stage ++ " failed: " ++ fault.text

end Negotiation

end Intercept.Failure
