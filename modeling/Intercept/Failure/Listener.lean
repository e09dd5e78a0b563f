import Intercept.Failure.Recovery
import Intercept.Failure.Socket

/-!
# Failures of a listener

A listener may fail to come up, fail to take in a connection or a datagram, or take one in whose
destination cannot be recovered. The last never stops a listener; the second stops it only if the
listening socket itself is unusable. When the system lacks descriptors or memory, trying again at
once would only spin, so the listener pauses.
-/

namespace Intercept.Failure

/-- A failure of a listener. -/
inductive Listener where
  | socket (failure : Socket)
  | accept (fault : IoFault)
  | receive (fault : IoFault)
  | recovery (failure : Recovery)
deriving DecidableEq

namespace Listener

def kind : Listener → Kind
  | .socket failure => failure.kind
  | .accept _ | .receive _ => .listener
  | .recovery failure => failure.kind

def text : Listener → String
  | .socket failure => "listener socket: " ++ failure.text
  | .accept fault => "accept error: " ++ fault.text
  | .receive fault => "receive error: " ++ fault.text
  | .recovery failure => failure.text

/-- Whether the fault leaves the listening socket usable. -/
def isTransient (fault : IoFault) : Bool :=
  match fault.kind with
  | .invalidInput | .permissionDenied => false
  | _ => true

def isRecoverable : Listener → Bool
  | .socket _ => false
  | .accept fault | .receive fault => isTransient fault
  | .recovery _ => true

/-- The error numbers by which the system says that it is out of descriptors or of memory. -/
def exhaustion : List Nat := [24, 23, 105, 12]

/-- How many milliseconds the listener pauses after the failure, if it pauses. -/
def pause? : Listener → Option Nat
  | .accept fault | .receive fault =>
    match fault.number? with
    | some number => if number ∈ exhaustion then some 100 else none
    | none => none
  | .socket _ | .recovery _ => none

end Listener

end Intercept.Failure
