import Intercept.Relay.Pipe
import Intercept.Stream.Transfer

/-!
# Both directions of a relay

Two pipes between two streams are polled in rounds, first the one from the client, then the one to
the client. Each pipe has its own source, sink and count; they share nothing but the clock, and the
first failure of either ends both. When neither can go on, the clock moves to the next time at which
one of them can; if there is none, the relay hangs.
-/

namespace Intercept.Relay

structure Duplex where
  /-- From the client. -/
  up : Pipe
  /-- To the client. -/
  down : Pipe
deriving DecidableEq

namespace Duplex

/-- The octets that a buffer holds unless the settings say otherwise. -/
def defaultSize : Nat := 65536

/-- Both pipes between two streams, before anything has moved. -/
def start (client remote : Stream) : Duplex :=
  ⟨Pipe.start client.reads remote.toSink, Pipe.start remote.reads client.toSink⟩

def client (d : Duplex) : Stream := { d.down.sink with reads := d.up.source }

def remote (d : Duplex) : Stream := { d.up.sink with reads := d.down.source }

inductive Round where
  | waiting (d : Duplex) (soon : Bool)
  | finished (d : Duplex)
  | failed (d : Duplex) (f : IoFault)

/-- The second half of a round: the pipe to the client, after the other one has come so far. -/
def roundDown (size now : Nat) (up down : Pipe) (upDone upSoon : Bool) : Round :=
  match down.poll size now with
  | .failed down f => .failed ⟨up, down⟩ f
  | .finished down => if upDone then .finished ⟨up, down⟩ else .waiting ⟨up, down⟩ upSoon
  | .waiting down soon => .waiting ⟨up, down⟩ (upSoon || soon)

/-- A round: each pipe goes on as far as it can. -/
def round (size now : Nat) (d : Duplex) : Round :=
  match d.up.poll size now with
  | .failed up f => .failed { d with up := up } f
  | .finished up => roundDown size now up d.down true false
  | .waiting up soon => roundDown size now up d.down false soon

def weight (d : Duplex) : Nat := d.up.weight + d.down.weight

/-- The next time at which a pipe can go on. -/
def nextWake (d : Duplex) : Option Nat := Pipe.earlier d.up.nextWake d.down.nextWake

def awaken (now : Nat) (d : Duplex) : Duplex := ⟨d.up.awaken now, d.down.awaken now⟩

theorem weight_roundDown {size now : Nat} {up down : Pipe} {upDone upSoon : Bool} {d : Duplex}
    {soon : Bool} (h : roundDown size now up down upDone upSoon = .waiting d soon) :
    d.up = up ∧ d.down.weight ≤ down.weight
      ∧ (soon = true → upSoon = true ∨ d.down.weight < down.weight) := by
  unfold roundDown at h
  split at h
  · cases h
  · rename_i q finished
    have lighter := Pipe.weight_poll_finished finished
    split at h
    · cases h
    · cases h
      exact ⟨rfl, lighter, .inl⟩
  · rename_i q s waiting
    have lighter := Pipe.weight_poll waiting
    cases h
    refine ⟨rfl, lighter.1, fun hs => ?_⟩
    rcases Bool.or_eq_true_iff.mp hs with h1 | h2
    · exact .inl h1
    · exact .inr (lighter.2 h2)

/-- A round does not make the weight greater; if the next one may follow at once, it has become
smaller. -/
theorem weight_round {size now : Nat} {d e : Duplex} {soon : Bool}
    (h : d.round size now = .waiting e soon) :
    e.weight ≤ d.weight ∧ (soon = true → e.weight < d.weight) := by
  unfold round at h
  split at h
  · cases h
  · rename_i up finished
    have first := Pipe.weight_poll_finished finished
    obtain ⟨rfl, second, strict⟩ := weight_roundDown h
    refine ⟨by simp only [weight]; omega, fun hs => ?_⟩
    rcases strict hs with absurd | lighter
    · cases absurd
    · simp only [weight]; omega
  · rename_i up s waiting
    have first := Pipe.weight_poll waiting
    obtain ⟨rfl, second, strict⟩ := weight_roundDown h
    refine ⟨by simp only [weight]; omega, fun hs => ?_⟩
    rcases strict hs with upSoon | lighter
    · have := first.2 upSoon
      simp only [weight]; omega
    · simp only [weight]; omega

theorem weight_awaken_lt {now : Nat} {d : Duplex} (h : d.nextWake = some now) :
    (d.awaken now).weight < d.weight := by
  have up := Pipe.weight_awaken now d.up
  have down := Pipe.weight_awaken now d.down
  simp only [weight, awaken]
  rcases Pipe.earlier_eq_some h with hs | hs
  · have := Pipe.weight_awaken_lt hs
    omega
  · have := Pipe.weight_awaken_lt hs
    omega

inductive Outcome where
  | finished
  | failed (f : IoFault)
  | hung
deriving DecidableEq

structure Run where
  outcome : Outcome
  duplex : Duplex
  now : Nat
deriving DecidableEq

/-- Relays until both directions are done, one fails, or nothing will happen before `horizon`. -/
def run (size : Nat) (horizon : Stream.Limit) (now : Nat) (d : Duplex) : Run :=
  match _ended : d.round size now with
  | .failed e f => ⟨.failed f, e, now⟩
  | .finished e => ⟨.finished, e, now⟩
  | .waiting e true => run size horizon now e
  | .waiting e false =>
    match _wakes : e.nextWake with
    | none => ⟨.hung, e, now⟩
    | some time =>
      if horizon.isBefore time then ⟨.hung, e, now⟩
      else run size horizon time (e.awaken time)
termination_by d.weight
decreasing_by
  · exact (weight_round _ended).2 rfl
  · have lighter := (weight_round _ended).1
    have := weight_awaken_lt _wakes
    omega

/-- Relays between two streams through buffers of `size` octets. -/
def copy (size : Nat) (horizon : Stream.Limit) (client remote : Stream) : Run :=
  run size horizon 0 (start client remote)

end Duplex

end Intercept.Relay
