import Intercept.Clock
import Intercept.Ledger
import Intercept.Proxy.Envelope

/-!
# Relaying datagrams

The datagrams of one flow are sent on in both directions. To the proxy's relay they travel in
envelopes, and what comes from there without a readable envelope is dropped; without a proxy they
travel as they are. A datagram from the other side that is longer than the buffer is cut to it when
it is received. The relay ends when nothing has been sent on for a while, when the client's side
closes, or when the connection that keeps the proxy's relay alive does; a fault ends it too.

Everything that comes has a time. What comes at the deadline or later comes too late.

## Main statements

* `step_datagram_dropped`: what is dropped does not put the deadline off.
* `step_payload`: what is sent on puts the deadline off and counts without its envelope.
-/

namespace Intercept.Relay

/-- Something that comes to a relay of datagrams; sending it on may meet a fault. -/
inductive Arrival where
  /-- A datagram of the client. -/
  | payload (octets : Bytes) (fault? : Option IoFault)
  /-- The client's side has closed. -/
  | closed
  /-- A datagram from the other side. -/
  | datagram (octets : Bytes) (fault? : Option IoFault)
  /-- Receiving from the other side failed. -/
  | receiveFault (f : IoFault)
  /-- Octets on the connection that keeps the proxy's relay alive. -/
  | control (octets : Bytes)
  /-- That connection has ended or failed. -/
  | controlEnded
deriving DecidableEq

/-- How datagrams are relayed. -/
structure Datagrams.Way where
  /-- Whether they go through the proxy's relay. -/
  isProxied : Bool
  destination : Address
  bufferSize : Nat
  idleMillis : Nat
deriving DecidableEq

structure Datagrams where
  now : Nat
  /-- When the relay ends if nothing more is sent on. -/
  deadline : Nat
  /-- The octets of the client's datagrams that were sent on. -/
  up : UInt64
  /-- The octets that were sent to the client. -/
  down : UInt64
  /-- What was sent to the other side, in order. -/
  sent : List Bytes
  /-- What was sent to the client, in order. -/
  replied : List Bytes
deriving DecidableEq

namespace Datagrams

namespace Way

/-- A client's datagram as it travels to the other side. -/
def outgoing (w : Way) (payload : Bytes) : Except Failure.Framing Bytes :=
  if w.isProxied then Proxy.Packet.wrap .udp ⟨w.destination, payload⟩ else .ok payload

/-- The payload for the client in a datagram that was received from the other side, if it has a
readable one. -/
def payload? (w : Way) (received : Bytes) : Option Bytes :=
  if w.isProxied then
    match Proxy.Packet.unwrap received with
    | .ok p => some p.payload
    | .error _ => none
  else some received

/-- The payload for the client in a datagram that came, which is first cut to the buffer. -/
def incoming? (w : Way) (datagram : Bytes) : Option Bytes := w.payload? (datagram.take w.bufferSize)

end Way

def start (w : Way) (now : Nat) : Datagrams :=
  ⟨now, Clock.deadlineAfter now w.idleMillis, 0, 0, [], []⟩

/-- The relay after something was sent on. -/
def refresh (w : Way) (d : Datagrams) : Datagrams :=
  { d with deadline := Clock.deadlineAfter d.now w.idleMillis }

/-- The relay after a client's datagram was sent on. -/
def sendUp (w : Way) (d : Datagrams) (payload sent : Bytes) : Datagrams :=
  refresh w { d with sent := d.sent ++ [sent], up := d.up + UInt64.ofNat payload.length }

/-- The relay after a payload was sent to the client. -/
def sendDown (w : Way) (d : Datagrams) (payload : Bytes) : Datagrams :=
  refresh w { d with
    replied := d.replied ++ [payload]
    down := d.down + UInt64.ofNat payload.length }

/-- What comes of an arrival. -/
inductive Next where
  | going (d : Datagrams)
  | finished (d : Datagrams)
  | failed (d : Datagrams) (f : Failure)

def step (w : Way) (d : Datagrams) : Arrival → Next
  | .payload octets fault? => match w.outgoing octets, fault? with
    | .error f, _ => .failed d (.framing f)
    | .ok _, some f => .failed d (.io f)
    | .ok sent, none => .going (sendUp w d octets sent)
  | .closed => .finished d
  | .datagram octets fault? => match w.incoming? octets, fault? with
    | none, _ => .going d
    | some _, some f => .failed d (.io f)
    | some payload, none => .going (sendDown w d payload)
  | .receiveFault f => .failed d (.io f)
  | .control _ => .going d
  | .controlEnded => if w.isProxied then .finished d else .going d

structure Run where
  result : Ledger.Result
  relay : Datagrams

/-- A relay that ends well. -/
def finish (d : Datagrams) : Run := ⟨.ok (d.up, d.down), d⟩

/-- A relay to which nothing came before its deadline. -/
def idle (d : Datagrams) : Run := finish { d with now := max d.now d.deadline }

/-- Relays what comes, each thing at its time, until the relay ends. -/
def run (w : Way) (d : Datagrams) : List (Nat × Arrival) → Run
  | [] => d.idle
  | (time, arrival) :: rest =>
    if d.deadline ≤ time then d.idle
    else match step w { d with now := max d.now time } arrival with
      | .going d => run w d rest
      | .finished d => d.finish
      | .failed d f => ⟨.error f, d⟩

/-! ### Single arrivals -/

/-- What is sent on puts the deadline off and counts without its envelope. -/
theorem step_payload {w : Way} {octets sent : Bytes} (h : w.outgoing octets = .ok sent)
    (d : Datagrams) : step w d (.payload octets none) = .going (sendUp w d octets sent) := by
  simp [step, h]

theorem step_datagram {w : Way} {octets payload : Bytes} (h : w.incoming? octets = some payload)
    (d : Datagrams) : step w d (.datagram octets none) = .going (sendDown w d payload) := by
  simp [step, h]

/-- A datagram without a readable payload changes nothing. -/
theorem step_datagram_dropped {w : Way} {octets : Bytes} (h : w.incoming? octets = none)
    (d : Datagrams) (fault? : Option IoFault) : step w d (.datagram octets fault?) = .going d := by
  simp [step, h]

@[simp]
theorem deadline_sendUp (w : Way) (d : Datagrams) (payload sent : Bytes) :
    (sendUp w d payload sent).deadline = Clock.deadlineAfter d.now w.idleMillis := rfl

@[simp]
theorem deadline_sendDown (w : Way) (d : Datagrams) (payload : Bytes) :
    (sendDown w d payload).deadline = Clock.deadlineAfter d.now w.idleMillis := rfl

end Datagrams

end Intercept.Relay
