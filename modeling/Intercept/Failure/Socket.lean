import Intercept.Endpoint
import Intercept.Failure.Kind
import Intercept.IoFault

/-!
# Failures of sockets

A socket that may carry foreign addresses is made, given options, bound and connected; each step can
fail. A lack of privilege is told apart, since no later attempt can succeed then.
-/

namespace Intercept.Failure

/-- A failure of making or using a socket. -/
inductive Socket where
  /-- The two ends differ in address family or in transport. -/
  | familyMismatch (near far : String)
  | privilegeDenied
  | creation (fault : IoFault)
  | option (name : String) (fault : IoFault)
  | unsupportedType (type : Int)
  | bind (endpoint : Endpoint) (fault : IoFault)
  | connect (endpoint : Endpoint) (fault : IoFault)
deriving DecidableEq

namespace Socket

/-- The failure of setting an option: refused permission means that the privilege is lacking. -/
def ofOption (name : String) (fault : IoFault) : Socket :=
  if fault.number? = some 1 then .privilegeDenied else .option name fault

def kind : Socket → Kind
  | .familyMismatch _ _ => .addressFamilyMismatch
  | .privilegeDenied => .privilegeDenied
  | .unsupportedType _ => .unsupportedTransport
  | .creation _ | .option _ _ | .bind _ _ | .connect _ _ => .io

def text : Socket → String
  | .familyMismatch near far => "address family mismatch: local " ++ near ++ ", remote " ++ far
  | .privilegeDenied => "permission denied: transparent sockets require CAP_NET_ADMIN"
  | .creation fault => "failed to create socket: " ++ fault.text
  | .option name fault => "failed to set socket option " ++ name ++ ": " ++ fault.text
  | .unsupportedType type => "unsupported socket type " ++ Decimal.signedText type
  | .bind endpoint fault => "failed to bind to " ++ endpoint.text ++ ": " ++ fault.text
  | .connect endpoint fault => "failed to connect to " ++ endpoint.text ++ ": " ++ fault.text

/-- The fault that the failure comes from, if it comes from one. -/
def fault? : Socket → Option IoFault
  | .creation fault | .option _ fault | .bind _ fault | .connect _ fault => some fault
  | .familyMismatch _ _ | .privilegeDenied | .unsupportedType _ => none

/-- Whether another session may still succeed. -/
def isRecoverable : Socket → Bool
  | .privilegeDenied => false
  | _ => true

end Socket

end Intercept.Failure
