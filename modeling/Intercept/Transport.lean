/-!
# Transports

A flow is carried by TCP or by UDP.
-/

namespace Intercept

inductive Transport where
  | tcp
  | udp
deriving DecidableEq

namespace Transport

/-- The name of a transport in messages, in settings and in statistics. -/
def name : Transport → String
  | .tcp => "tcp"
  | .udp => "udp"

def ofName? : String → Option Transport
  | "tcp" => some .tcp
  | "udp" => some .udp
  | _ => none

theorem ofName?_name (t : Transport) : ofName? t.name = some t := by cases t <;> rfl

end Transport

end Intercept
