import Intercept.Bytes
import Intercept.IoFault

/-!
# Streams

A stream is given by what will happen on it: a list of events for its reading side and one for its
writing side, met in order, and what flushing and shutting down will say. Beside that it keeps what
was done to it. Time is counted in milliseconds and moves only while everyone waits.
-/

namespace Intercept

/-- Something that happens on one side of a stream: on the reading side the items are data, on the
writing side they are how many octets will be taken. -/
inductive Event (α : Type) where
  | item (a : α)
  /-- The call that meets this fails. -/
  | fault (f : IoFault)
  /-- Nothing happens for so many milliseconds, counted from the call that first meets this. -/
  | delay (ms : Nat)
  /-- Nothing happens before the given time. -/
  | wakeAt (time : Nat)
  /-- The call that meets this is not ready, but the next one may be. -/
  | yield
  /-- Nothing happens any more. -/
  | hang
deriving DecidableEq

/-- The writing side of a stream: what will happen on it and what was done to it. -/
structure Sink where
  writes : List (Event Nat)
  flushFault : Option IoFault
  shutdownFault : Option IoFault
  /-- The pieces that were taken, in order. -/
  written : List Bytes
  flushes : Nat
  shutdowns : Nat
deriving DecidableEq

/-- A stream: a writing side, and what will happen on the reading side. -/
structure Stream extends Sink where
  reads : List (Event Bytes)
deriving DecidableEq

namespace Sink

def output (s : Sink) : Bytes := s.written.flatten

/-- A flush is counted, and then fails if the sink says so. It does not wait: what a sink has taken
is on its way already. -/
def flush (s : Sink) : Option IoFault × Sink :=
  (s.flushFault, { s with flushes := s.flushes + 1 })

/-- A shutdown is counted, and then fails if the sink says so. -/
def shutdown (s : Sink) : Option IoFault × Sink :=
  (s.shutdownFault, { s with shutdowns := s.shutdowns + 1 })

end Sink

namespace Stream

/-- The data in a list of reading events, joined. -/
def dataOf : List (Event Bytes) → Bytes
  | [] => []
  | .item d :: es => d ++ dataOf es
  | _ :: es => dataOf es

/-- The octets that were not read. -/
def unread (s : Stream) : Nat := (dataOf s.reads).length

end Stream

end Intercept
