import Intercept.Dial
import Intercept.Stream

/-!
# What a session meets

A session reaches out: it dials streams and datagram sockets, and has names looked up. What comes of
each of these is all that matters of the world around it. Streams and look-ups take time, or never
come to an end; a deadline bounds the wait for them.
-/

namespace Intercept.Session

/-- What comes of something that takes time: after how many milliseconds it comes, and what; `none`
if it never comes. -/
abbrev Delayed (α : Type) := Option (Nat × α)

/-- What a session meets when it reaches out. -/
structure Surroundings where
  /-- What comes of dialing a stream from one endpoint to another. -/
  dialStream : Endpoint → Endpoint → Delayed (Except Failure.Socket Stream)
  /-- What comes of dialing the other side of a flow of datagrams. -/
  dialRelay : Endpoint → Endpoint → Except Failure.Socket Unit
  /-- What comes of dialing the client of a flow of datagrams. -/
  dialClient : Endpoint → Endpoint → Except Failure.Socket Unit
  /-- What comes of looking a name up. -/
  lookUp : String → UInt16 → Delayed (Except IoFault (List Endpoint))

namespace Surroundings

/-- The surroundings of a session on a host where every peer that is reached behaves as said, at
once, and names are looked up in a table. -/
def ofNetwork (n : Network) (peer : Endpoint → Stream)
    (table : String → UInt16 → Except IoFault (List Endpoint)) : Surroundings where
  dialStream near far :=
    some (0, (Dial.dial n ⟨.tcp, near⟩ ⟨.tcp, far⟩).map fun _ => peer far)
  dialRelay near far := Dial.dial n ⟨.udp, near⟩ ⟨.udp, far⟩
  dialClient near far := Dial.dial n ⟨.udp, near⟩ ⟨.udp, far⟩
  lookUp name port := some (0, table name port)

end Surroundings

/-- Waits for something that takes time, but not past a deadline; what comes at once is never too
late. The second part is the time at which the wait ended. -/
def Delayed.within {α : Type} (deadline now : Nat) : Delayed α → Option α × Nat
  | some (millis, a) =>
    if millis = 0 ∨ now + millis ≤ deadline then (some a, now + millis)
    else (none, max now deadline)
  | none => (none, max now deadline)

end Intercept.Session
