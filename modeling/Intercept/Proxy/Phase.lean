/-!
# Phases of a session

How far the way to the destination has been opened. A handshake with the proxy goes through the
phases in order, with `authRequired` only if the proxy asks for a password; it ends in `established`
or in `failed`.
-/

namespace Intercept.Proxy

/-- How far a session has come. -/
inductive Phase where
  | init
  | greetingSent
  | authRequired
  | methodSelected
  | connectSent
  | established
  | failed
deriving DecidableEq

namespace Phase

def all : List Phase :=
  [.init, .greetingSent, .authRequired, .methodSelected, .connectSent, .established, .failed]

def name : Phase → String
  | .init => "init"
  | .greetingSent => "greeting_sent"
  | .authRequired => "auth_required"
  | .methodSelected => "method_selected"
  | .connectSent => "connect_sent"
  | .established => "established"
  | .failed => "failed"

def ofName? (name : String) : Option Phase := all.find? (·.name == name)

/-- Whether the session will go no further. -/
def isTerminal : Phase → Bool
  | .established | .failed => true
  | _ => false

theorem mem_all (p : Phase) : p ∈ all := by cases p <;> decide

theorem ofName?_name (p : Phase) : ofName? p.name = some p := by cases p <;> decide +kernel

end Phase

end Intercept.Proxy
