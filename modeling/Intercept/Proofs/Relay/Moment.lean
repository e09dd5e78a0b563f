import Intercept.Proofs.Course
import Intercept.Relay.Duplex

/-!
# A relay step by step

A relay goes through moments. From one to the next a pipe makes one step, a new round begins, or the
clock moves; when it is over, nothing follows.

## Main statements

* `leads_copy`: the moments lead from the start of a relay to what it leaves behind.
-/

namespace Intercept.Relay.Duplex

open Pipe (Progress Polled)

/-- What a relay does next. -/
inductive Turn where
  /-- The pipe from the client makes a step. -/
  | up
  /-- The other pipe makes a step; the first one is done for good, or may go on at once. -/
  | down (upDone upSoon : Bool)
  | rest (soon : Bool)
  | ended (outcome : Outcome)
deriving DecidableEq

structure Moment where
  turn : Turn
  duplex : Duplex
  now : Nat
deriving DecidableEq

namespace Moment

def first (client remote : Stream) : Moment := ⟨.up, start client remote, 0⟩

def last (r : Run) : Moment := ⟨.ended r.outcome, r.duplex, r.now⟩

/-- The moment after a step of the pipe from the client. -/
def afterUp (d : Duplex) (now : Nat) : Progress → Moment
  | .running p => ⟨.up, { d with up := p }, now⟩
  | .waiting p soon => ⟨.down false soon, { d with up := p }, now⟩
  | .finished p => ⟨.down true false, { d with up := p }, now⟩
  | .failed p f => ⟨.ended (.failed f), { d with up := p }, now⟩

def afterDown (upDone upSoon : Bool) (d : Duplex) (now : Nat) : Progress → Moment
  | .running p => ⟨.down upDone upSoon, { d with down := p }, now⟩
  | .waiting p soon => ⟨.rest (upSoon || soon), { d with down := p }, now⟩
  | .finished p => ⟨if upDone then .ended .finished else .rest upSoon, { d with down := p }, now⟩
  | .failed p f => ⟨.ended (.failed f), { d with down := p }, now⟩

/-- The moment after the clock has moved, if there is anything to wait for. -/
def afterSleep (horizon : Stream.Limit) (d : Duplex) (now : Nat) : Moment :=
  match d.nextWake with
  | none => ⟨.ended .hung, d, now⟩
  | some time =>
    if horizon.isBefore time then ⟨.ended .hung, d, now⟩ else ⟨.up, d.awaken time, time⟩

/-- The next moment of a relay whose buffers hold `size` octets, and at least one. -/
def next (size : Nat) (horizon : Stream.Limit) (m : Moment) : Option Moment :=
  match m.turn with
  | .up => some (afterUp m.duplex m.now (m.duplex.up.step (max size 1) m.now))
  | .down upDone upSoon =>
    some (afterDown upDone upSoon m.duplex m.now (m.duplex.down.step (max size 1) m.now))
  | .rest true => some { m with turn := .up }
  | .rest false => some (afterSleep horizon m.duplex m.now)
  | .ended _ => none

end Moment

open Moment

variable {size : Nat} {horizon : Stream.Limit} {client remote : Stream}

/-! ### Polls and rounds -/

/-- What polling came to, as what its last step came to. -/
def asProgress : Polled → Progress
  | .waiting p soon => .waiting p soon
  | .finished p => .finished p
  | .failed p f => .failed p f

theorem leads_poll_up (now : Nat) (d : Duplex) (p : Pipe) :
    Leads (next size horizon) ⟨.up, { d with up := p }, now⟩
      (afterUp d now (asProgress (p.poll size now))) := by
  fun_induction Pipe.poll size now p with
  | case1 p q stepped ih =>
    refine .step ?_ ih
    simp only [next, stepped, afterUp]
  | case2 p q soon stepped | case3 p q stepped | case4 p q f stepped =>
    refine .step ?_ .refl
    simp only [next, stepped, afterUp, asProgress]

theorem leads_poll_down (now : Nat) (upDone upSoon : Bool) (d : Duplex) (p : Pipe) :
    Leads (next size horizon) ⟨.down upDone upSoon, { d with down := p }, now⟩
      (afterDown upDone upSoon d now (asProgress (p.poll size now))) := by
  fun_induction Pipe.poll size now p with
  | case1 p q stepped ih =>
    refine .step ?_ ih
    simp only [next, stepped, afterDown]
  | case2 p q soon stepped | case3 p q stepped | case4 p q f stepped =>
    refine .step ?_ .refl
    simp only [next, stepped, afterDown, asProgress]

/-- The moment after a round. -/
def afterRound (now : Nat) : Round → Moment
  | .waiting d soon => ⟨.rest soon, d, now⟩
  | .finished d => ⟨.ended .finished, d, now⟩
  | .failed d f => ⟨.ended (.failed f), d, now⟩

theorem afterDown_eq_afterRound (now : Nat) (upDone upSoon : Bool) (up down : Pipe) :
    afterDown upDone upSoon ⟨up, down⟩ now (asProgress (down.poll size now))
      = afterRound now (roundDown size now up down upDone upSoon) := by
  unfold roundDown
  cases down.poll size now with
  | waiting p soon => rfl
  | finished p => cases upDone <;> rfl
  | failed p f => rfl

theorem leads_round {now : Nat} {d : Duplex} {r : Round} (came : d.round size now = r) :
    Leads (next size horizon) ⟨.up, d, now⟩ (afterRound now r) := by
  have first := @leads_poll_up size horizon now d d.up
  subst came
  unfold round
  cases polled : d.up.poll size now with
  | failed p f =>
    rw [polled] at first
    exact first
  | waiting p soon =>
    rw [polled] at first
    have second := @leads_poll_down size horizon now false soon ⟨p, d.down⟩ d.down
    rw [afterDown_eq_afterRound] at second
    exact first.trans second
  | finished p =>
    rw [polled] at first
    have second := @leads_poll_down size horizon now true false ⟨p, d.down⟩ d.down
    rw [afterDown_eq_afterRound] at second
    exact first.trans second

theorem leads_run (now : Nat) (d : Duplex) :
    Leads (next size horizon) ⟨.up, d, now⟩ (last (run size horizon now d)) := by
  fun_induction run size horizon now d with
  | case1 now d e f came => exact leads_round came
  | case2 now d e came => exact leads_round came
  | case3 now d e came ih => exact (leads_round came).trans (.step rfl ih)
  | case4 now d e came asleep =>
    -- no pipe will ever wake up
    refine (leads_round came).trans (.step ?_ .refl)
    simp only [next, afterRound, afterSleep, asleep, last]
  | case5 now d e came time wakes late =>
    refine (leads_round came).trans (.step ?_ .refl)
    simp only [next, afterRound, afterSleep, wakes, late, last, if_true]
  | case6 now d e came time wakes inTime ih =>
    refine (leads_round came).trans (.step ?_ ih)
    simp only [next, afterRound, afterSleep, wakes, inTime, Bool.false_eq_true, if_false]

/-- **The moments of a relay** lead to what the relay leaves behind. -/
theorem leads_copy (size : Nat) (horizon : Stream.Limit) (client remote : Stream) :
    Leads (next size horizon) (first client remote) (last (copy size horizon client remote)) :=
  leads_run 0 (start client remote)

end Intercept.Relay.Duplex
