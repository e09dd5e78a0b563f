import Intercept.ControlRecord
import Intercept.Ledger
import Intercept.Network
import Intercept.SocketOption

/-!
# Listening

A listener takes in connections or datagrams and finds out where each was to go: of a connection the
system is asked, with a datagram the system delivers it. What goes wrong with one of them is entered
into the ledger and passed over; only a fault that leaves the listener useless ends it.
-/

namespace Intercept.Listener

/-! ### Coming up -/

/-- Asks a host for a listening socket and binds it. The family is that of the endpoint as it is
given. -/
def comeUp (n : Network) (transport : Transport) (e : Endpoint) : Except Failure.Listener Unit :=
  match n.refusal? e.family transport with
  | some r => .error (.socket r.failure)
  | none => match n.bindFault? transport e with
    | some fault => .error (.socket (.bind e fault))
    | none => .ok ()

/-! ### Connections -/

/-- The error numbers by which the system says that it knows of no redirection. -/
def notRedirected : List Nat := [92, 2]

/-- Why the system does not say where a connection was to go. -/
def obstacle (option : SocketOption) (fault : IoFault) : Failure.Recovery.Obstacle :=
  match fault.number? with
  | some number =>
    if number ∈ notRedirected then .notRedirected option.name else .queryFailed option.name fault
  | none => .queryFailed option.name fault

/-- The option that is asked for the destination of a connection that was taken in at an endpoint.
An IPv6 endpoint that stands for an IPv4 one is asked as such. -/
def destinationOption (near : Endpoint) : SocketOption :=
  .intendedDestination near.canonical.family

/-- Where a connection was to go, given how the system answers. -/
def destination (near : Endpoint) (answer : SocketOption → Except IoFault Endpoint) :
    Except Failure.Recovery Address :=
  match answer (destinationOption near) with
  | .ok e => .ok (.ofEndpoint e)
  | .error fault => .error (.unavailable (obstacle (destinationOption near) fault))

/-! ### Datagrams -/

/-- A datagram as the system delivers it. -/
structure Received where
  payload : Bytes
  source : Endpoint
  /-- The control records, and whether there was no room for all of them. -/
  control : Bytes
  isCut : Bool
deriving DecidableEq

def Received.destination (r : Received) : Except Failure.Recovery Address :=
  if r.isCut then .error (.malformed .truncated) else ControlRecord.statedDestination r.control

/-! ### Going on -/

/-- What a listener leaves behind. -/
structure Served (α : Type) where
  /-- What was taken in, in order. -/
  handed : List α
  /-- What was entered into the ledger, in order. -/
  entries : List Ledger.Entry
  /-- For how many milliseconds the listener paused. -/
  pausedMillis : Nat
  /-- The failure that ended the listener, if it was not stopped. -/
  failure : Option Failure.Listener

/-- Takes in one thing after the other, until the listener is stopped or a failure ends it. -/
def serve {α : Type} : List (Except Failure.Listener α) → Served α
  | [] => ⟨[], [], 0, none⟩
  | .ok a :: rest =>
    let later := serve rest
    { later with handed := a :: later.handed }
  | .error f :: rest =>
    if f.isRecoverable then
      let later := serve rest
      { later with
        entries := .error f.kind :: later.entries
        pausedMillis := f.pause?.getD 0 + later.pausedMillis }
    else ⟨[], [], 0, some f⟩

end Intercept.Listener
