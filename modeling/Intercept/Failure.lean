import Intercept.Failure.Framing
import Intercept.Failure.Listener
import Intercept.Failure.Settings

/-!
# Failures

A failure of any layer. Its kind is that of the layer's own failure, and its text says which layer
it came from. A failure is recoverable if other sessions may go on after it.
-/

namespace Intercept

inductive Failure where
  | recovery (failure : Failure.Recovery)
  | socket (failure : Failure.Socket)
  | negotiation (failure : Failure.Negotiation)
  | framing (failure : Failure.Framing)
  | listener (failure : Failure.Listener)
  | settings (failure : Failure.Settings)
  | io (fault : IoFault)
deriving DecidableEq

namespace Failure

def kind : Failure → Kind
  | .recovery failure => failure.kind
  | .socket failure => failure.kind
  | .negotiation failure => failure.kind
  | .framing failure => failure.kind
  | .listener failure => failure.kind
  | .settings _ => .config
  | .io _ => .io

def text : Failure → String
  | .recovery failure => "Destination recovery failed: " ++ failure.text
  | .socket failure => "Socket error: " ++ failure.text
  | .negotiation failure => "Negotiation failed: " ++ failure.text
  | .framing failure => "UDP framing error: " ++ failure.text
  | .listener failure => "Listener error: " ++ failure.text
  | .settings failure => "Configuration error: " ++ failure.text
  | .io fault => "I/O error: " ++ fault.text

/-- Whether other sessions may go on after the failure. -/
def isRecoverable : Failure → Bool
  | .recovery _ | .negotiation _ | .framing _ | .io _ => true
  | .socket failure => failure.isRecoverable
  | .listener failure => failure.isRecoverable
  | .settings _ => false

end Failure

end Intercept
