import Intercept.Stream

/-!
# One direction of a relay

A pipe moves what comes from a source to a sink through a buffer: it reads at most as many octets as
the buffer holds, writes them all before it reads again, and when the source has ended it flushes
the sink and shuts it down. A pipe is polled: it goes on as far as it can without waiting.

## Main statements

* `weight_step`: every step that goes on makes a weight smaller, so that polling comes to an end.
* `weight_poll`: polling never makes the weight greater, and a poll that may be repeated at once has
  made it smaller.
-/

namespace Intercept.Relay

/-- What a pipe is doing. -/
inductive Stage where
  | reading
  | writing (pending : Bytes)
  | closing
  | done
deriving DecidableEq

/-- One direction of a relay. -/
structure Pipe where
  stage : Stage
  source : List (Event Bytes)
  sink : Sink
  /-- How many octets the sink has taken. -/
  moved : Nat
deriving DecidableEq

namespace Pipe

def start (source : List (Event Bytes)) (sink : Sink) : Pipe := ⟨.reading, source, sink, 0⟩

inductive Progress where
  | running (p : Pipe)
  /-- The pipe has to wait; `soon` says that it may be polled again at once. -/
  | waiting (p : Pipe) (soon : Bool)
  | finished (p : Pipe)
  | failed (p : Pipe) (f : IoFault)

/-- The pipe after `pending` has lost its first `count` octets to the sink. -/
def accept (p : Pipe) (pending : Bytes) (count : Nat) (writes : List (Event Nat)) : Pipe :=
  let taken := pending.take count
  let left := pending.drop count
  { p with
    stage := if left.isEmpty then .reading else .writing left
    sink := { p.sink with writes := writes, written := p.sink.written ++ [taken] }
    moved := p.moved + taken.length }

def stepReading (size now : Nat) (p : Pipe) : Progress :=
  match p.source with
  | [] => .running { p with stage := .closing }
  | .item [] :: es => .running { p with source := es }
  | .item (b :: bs) :: es =>
    let data := b :: bs
    .running { p with
      stage := .writing (data.take size)
      source := if size < data.length then .item (data.drop size) :: es else es }
  | .fault f :: es => .failed { p with source := es } f
  | .delay ms :: es => .running { p with source := .wakeAt (now + ms) :: es }
  | .wakeAt time :: es =>
    if time ≤ now then .running { p with source := es } else .waiting p false
  | .yield :: es => .waiting { p with source := es } true
  | .hang :: _ => .waiting p false

/-- The pipe with other events on the writing side of its sink. -/
def withWrites (p : Pipe) (writes : List (Event Nat)) : Pipe :=
  { p with sink := { p.sink with writes := writes } }

def stepWriting (now : Nat) (p : Pipe) (pending : Bytes) : Progress :=
  match pending, p.sink.writes with
  | [], _ => .running { p with stage := .reading }
  | b :: bs, [] => .running (p.accept (b :: bs) (b :: bs).length [])
  | _ :: _, .item 0 :: es => .failed (p.withWrites es) .acceptedZero
  | b :: bs, .item (n + 1) :: es => .running (p.accept (b :: bs) (n + 1) es)
  | _ :: _, .fault f :: es => .failed (p.withWrites es) f
  | _ :: _, .delay ms :: es => .running (p.withWrites (.wakeAt (now + ms) :: es))
  | _ :: _, .wakeAt time :: es =>
    if time ≤ now then .running (p.withWrites es) else .waiting p false
  | _ :: _, .yield :: es => .waiting (p.withWrites es) true
  | _ :: _, .hang :: _ => .waiting p false

/-- The last step: the sink is flushed and shut down. -/
def stepClosing (p : Pipe) : Progress :=
  match p.sink.flush with
  | (some f, flushed) => .failed { p with sink := flushed } f
  | (none, flushed) => match flushed.shutdown with
    | (some f, shut) => .failed { p with sink := shut } f
    | (none, shut) => .finished { p with stage := .done, sink := shut }

/-- A step of a pipe whose buffer holds `size` octets. -/
def step (size now : Nat) (p : Pipe) : Progress :=
  match p.stage with
  | .reading => p.stepReading size now
  | .writing pending => p.stepWriting now pending
  | .closing => p.stepClosing
  | .done => .finished p

/-! ### Polling comes to an end -/

/-- The weight of what is still to come from a source. -/
def sourceWeight : List (Event Bytes) → Nat
  | [] => 0
  | .item d :: es => 4 * d.length + 1 + sourceWeight es
  | .delay _ :: es => 2 + sourceWeight es
  | _ :: es => 1 + sourceWeight es

def sinkWeight : List (Event Nat) → Nat
  | [] => 0
  | .delay _ :: es => 2 + sinkWeight es
  | _ :: es => 1 + sinkWeight es

def stageWeight : Stage → Nat
  | .reading => 1
  | .writing pending => 2 * pending.length + 2
  | .closing | .done => 0

/-- The weight of all that is still to come. -/
def weight (p : Pipe) : Nat :=
  sourceWeight p.source + sinkWeight p.sink.writes + stageWeight p.stage

theorem weight_accept {p : Pipe} {b : UInt8} {bs : Bytes} {count : Nat} (positive : 0 < count)
    (writes : List (Event Nat)) :
    (p.accept (b :: bs) count writes).weight
      < sourceWeight p.source + sinkWeight writes + stageWeight (.writing (b :: bs)) := by
  by_cases empty : ((b :: bs).drop count).isEmpty = true
  · simp only [weight, accept, empty, if_true, stageWeight, List.length_cons]
    omega
  · simp only [weight, accept, empty, stageWeight, List.length_cons]
    simp only [Bool.false_eq_true, if_false, List.length_drop, List.length_cons]
    omega

/-- A step that goes on makes the weight smaller. -/
theorem weight_step {size : Nat} (positive : 0 < size) {now : Nat} {p q : Pipe}
    (h : p.step size now = .running q) : q.weight < p.weight := by
  unfold step at h
  split at h
  · rename_i reading
    unfold stepReading at h
    split at h
    · rename_i hs; cases h; simp [weight, stageWeight, reading, hs, sourceWeight]
    · rename_i es hs; cases h; simp [weight, hs, sourceWeight]
    · rename_i b bs es hs
      cases h
      simp only [weight, stageWeight, reading, hs, sourceWeight, List.length_take]
      split
      · rename_i longer
        simp only [sourceWeight, List.length_drop]
        omega
      · have : 0 < (b :: bs).length := by simp
        omega
    · cases h
    · rename_i ms es hs; cases h; simp [weight, hs, sourceWeight]
    · rename_i time es hs
      split at h
      · cases h; simp [weight, hs, sourceWeight]
      · cases h
    · cases h
    · cases h
  · rename_i pending writing
    unfold stepWriting at h
    split at h
    · cases h; simp [weight, stageWeight, writing]
    · rename_i b bs hs
      cases h
      have := @weight_accept p b bs (b :: bs).length (by simp) []
      simpa [weight, writing, hs, sinkWeight] using this
    · cases h
    · rename_i b bs n es hs
      cases h
      have := @weight_accept p b bs (n + 1) (by simp) es
      simp only [weight, writing, hs, sinkWeight] at this ⊢
      omega
    · cases h
    · rename_i ms es hs; cases h; simp [weight, withWrites, hs, sinkWeight]
    · rename_i time es hs
      split at h
      · cases h; simp [weight, withWrites, hs, sinkWeight]
      · cases h
    · cases h
    · cases h
  · unfold stepClosing at h
    split at h
    · cases h
    · split at h <;> cases h
  · cases h

inductive Polled where
  | waiting (p : Pipe) (soon : Bool)
  | finished (p : Pipe)
  | failed (p : Pipe) (f : IoFault)

/-- Goes on until the pipe has to wait, is finished, or fails. A buffer holds at least one octet. -/
def poll (size now : Nat) (p : Pipe) : Polled :=
  match _stepped : p.step (max size 1) now with
  | .running q => poll size now q
  | .waiting q soon => .waiting q soon
  | .finished q => .finished q
  | .failed q f => .failed q f
termination_by p.weight
decreasing_by exact weight_step (by omega) _stepped

/-- A step that has to wait keeps the weight, or makes it smaller if the pipe may be polled again at
once. -/
theorem weight_step_waiting {size now : Nat} {p q : Pipe} {soon : Bool}
    (h : p.step size now = .waiting q soon) :
    q.weight ≤ p.weight ∧ (soon = true → q.weight < p.weight) := by
  unfold step at h
  split at h
  · unfold stepReading at h
    split at h <;> try cases h
    · split at h <;> cases h
      exact ⟨Nat.le_refl _, by simp⟩
    · rename_i es hs
      simp [weight, hs, sourceWeight]
    · exact ⟨Nat.le_refl _, by simp⟩
  · unfold stepWriting at h
    split at h <;> try cases h
    · split at h <;> cases h
      exact ⟨Nat.le_refl _, by simp⟩
    · rename_i events stage
      simp [weight, withWrites, events, sinkWeight]
    · exact ⟨Nat.le_refl _, by simp⟩
  · unfold stepClosing at h
    split at h
    · cases h
    · split at h <;> cases h
  · cases h

/-- Polling does not make the weight greater; if the pipe may be polled again at once, it has become
smaller. -/
theorem weight_poll {size now : Nat} {p q : Pipe} {soon : Bool}
    (h : p.poll size now = .waiting q soon) :
    q.weight ≤ p.weight ∧ (soon = true → q.weight < p.weight) := by
  fun_induction poll size now p with
  | case1 p r stepped ih =>
    have lighter := weight_step (by omega) stepped
    have := ih h
    exact ⟨by omega, fun s => by have := this.2 s; omega⟩
  | case2 p r s stepped =>
    cases h
    exact weight_step_waiting stepped
  | case3 p r stepped => cases h
  | case4 p r f stepped => cases h

/-- A step that finishes does not make the weight greater. -/
theorem weight_step_finished {size now : Nat} {p q : Pipe} (h : p.step size now = .finished q) :
    q.weight ≤ p.weight := by
  unfold step at h
  split at h
  · unfold stepReading at h
    split at h <;> try cases h
    split at h <;> cases h
  · unfold stepWriting at h
    split at h <;> try cases h
    split at h <;> cases h
  · rename_i closing
    unfold stepClosing at h
    split at h
    · cases h
    · split at h
      · cases h
      · rename_i flushed hf _ shut hs
        cases h
        simp only [Sink.flush, Sink.shutdown, Prod.mk.injEq] at hf hs
        simp [weight, stageWeight, closing, ← hs.2, ← hf.2]
  · cases h; exact Nat.le_refl _

theorem weight_poll_finished {size now : Nat} {p q : Pipe} (h : p.poll size now = .finished q) :
    q.weight ≤ p.weight := by
  fun_induction poll size now p with
  | case1 p r stepped ih =>
    have lighter := weight_step (by omega) stepped
    have := ih h
    omega
  | case2 p r s stepped => cases h
  | case3 p r stepped => cases h; exact weight_step_finished stepped
  | case4 p r f stepped => cases h

/-! ### Waking up -/

/-- The time for which the first event waits, if it waits for a time. -/
def wakeTime? {α : Type} : List (Event α) → Option Nat
  | .wakeAt time :: _ => some time
  | _ => none

/-- The events without a first wait that is over. -/
def wake {α : Type} (now : Nat) : List (Event α) → List (Event α)
  | .wakeAt time :: es => if time ≤ now then es else .wakeAt time :: es
  | es => es

theorem sourceWeight_wake (now : Nat) (es : List (Event Bytes)) :
    sourceWeight (wake now es) ≤ sourceWeight es := by
  unfold wake
  split
  · split <;> simp [sourceWeight]
  · exact Nat.le_refl _

theorem sinkWeight_wake (now : Nat) (es : List (Event Nat)) :
    sinkWeight (wake now es) ≤ sinkWeight es := by
  unfold wake
  split
  · split <;> simp [sinkWeight]
  · exact Nat.le_refl _

theorem sourceWeight_wake_lt {now : Nat} {es : List (Event Bytes)}
    (h : wakeTime? es = some now) : sourceWeight (wake now es) < sourceWeight es := by
  unfold wakeTime? at h
  split at h
  · cases h; simp [wake, sourceWeight]
  · cases h

theorem sinkWeight_wake_lt {now : Nat} {es : List (Event Nat)}
    (h : wakeTime? es = some now) : sinkWeight (wake now es) < sinkWeight es := by
  unfold wakeTime? at h
  split at h
  · cases h; simp [wake, sinkWeight]
  · cases h

/-- The pipe at a later time: waits that are over by then have gone. -/
def awaken (now : Nat) (p : Pipe) : Pipe :=
  { p with source := wake now p.source, sink := { p.sink with writes := wake now p.sink.writes } }

/-- The earlier of two times that may not come. -/
def earlier : Option Nat → Option Nat → Option Nat
  | none, t => t
  | t, none => t
  | some a, some b => some (min a b)

theorem earlier_eq_some {s t : Option Nat} {n : Nat} (h : earlier s t = some n) :
    s = some n ∨ t = some n := by
  cases s with
  | none => exact .inr h
  | some a =>
    cases t with
    | none => exact .inl h
    | some b =>
      simp only [earlier, Option.some.injEq] at h
      rcases Nat.le_total a b with hab | hba
      · exact .inl (by rw [← h, Nat.min_eq_left hab])
      · exact .inr (by rw [← h, Nat.min_eq_right hba])

/-- The next time at which a wait of the pipe is over. -/
def nextWake (p : Pipe) : Option Nat := earlier (wakeTime? p.source) (wakeTime? p.sink.writes)

theorem weight_awaken (now : Nat) (p : Pipe) : (p.awaken now).weight ≤ p.weight := by
  have := sourceWeight_wake now p.source
  have := sinkWeight_wake now p.sink.writes
  simp only [weight, awaken]
  omega

theorem weight_awaken_lt {now : Nat} {p : Pipe} (h : p.nextWake = some now) :
    (p.awaken now).weight < p.weight := by
  have front := sourceWeight_wake now p.source
  have back := sinkWeight_wake now p.sink.writes
  simp only [weight, awaken]
  rcases earlier_eq_some h with hs | hs
  · have := sourceWeight_wake_lt hs
    omega
  · have := sinkWeight_wake_lt hs
    omega

end Pipe

end Intercept.Relay
