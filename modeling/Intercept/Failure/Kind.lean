/-!
# Kinds of failure

Sixteen kinds, in a fixed order, under which statistics are kept. Main statement: `ofName?_name`, so
that a kind and its name determine each other.
-/

namespace Intercept.Failure

/-- The kinds of failure, in the order in which they are numbered. -/
inductive Kind where
  | recoveryUnavailable
  | recoveryMissing
  | recoveryMalformed
  | addressFamilyMismatch
  | privilegeDenied
  | protocolVersionMismatch
  | methodRejected
  | authRejected
  | connectRejected
  | nameTooLong
  | addressInvalid
  | negotiationTimeout
  | unsupportedTransport
  | io
  | config
  | listener
deriving DecidableEq

namespace Kind

def all : List Kind := [
  .recoveryUnavailable, .recoveryMissing, .recoveryMalformed, .addressFamilyMismatch,
  .privilegeDenied, .protocolVersionMismatch, .methodRejected, .authRejected, .connectRejected,
  .nameTooLong, .addressInvalid, .negotiationTimeout, .unsupportedTransport, .io, .config,
  .listener]

def index : Kind → Nat
  | .recoveryUnavailable => 0
  | .recoveryMissing => 1
  | .recoveryMalformed => 2
  | .addressFamilyMismatch => 3
  | .privilegeDenied => 4
  | .protocolVersionMismatch => 5
  | .methodRejected => 6
  | .authRejected => 7
  | .connectRejected => 8
  | .nameTooLong => 9
  | .addressInvalid => 10
  | .negotiationTimeout => 11
  | .unsupportedTransport => 12
  | .io => 13
  | .config => 14
  | .listener => 15

def name : Kind → String
  | .recoveryUnavailable => "recovery_unavailable"
  | .recoveryMissing => "recovery_missing"
  | .recoveryMalformed => "recovery_malformed"
  | .addressFamilyMismatch => "address_family_mismatch"
  | .privilegeDenied => "privilege_denied"
  | .protocolVersionMismatch => "protocol_version_mismatch"
  | .methodRejected => "method_rejected"
  | .authRejected => "auth_rejected"
  | .connectRejected => "connect_rejected"
  | .nameTooLong => "name_too_long"
  | .addressInvalid => "address_invalid"
  | .negotiationTimeout => "negotiation_timeout"
  | .unsupportedTransport => "unsupported_transport"
  | .io => "io"
  | .config => "config"
  | .listener => "listener"

def ofName? (name : String) : Option Kind := all.find? (·.name == name)

theorem mem_all (k : Kind) : k ∈ all := by cases k <;> decide

/-- The order lists every kind at its own index. -/
theorem getElem?_all_index (k : Kind) : all[k.index]? = some k := by cases k <;> rfl

theorem ofName?_name (k : Kind) : ofName? k.name = some k := by cases k <;> decide +kernel

end Kind

end Intercept.Failure
