import Intercept.Proofs.Relay.Books
import Intercept.Proofs.Stream.Calm

/-!
# What is still to happen to a pipe

The events ahead of a pipe are met in order, and a step never adds to them: of a piece of data it may
leave a rest, of a wait the time at which it is over. So a pipe ahead of which lies no fault will not
fail. A pipe that has to wait and may not be polled again at once stalls: until the time for which it
waits, if there is one, it can be polled as often as one likes and stays as it is.

## Main statements

* `script_step`: what a step leaves of the events.
* `step_tells`: why a step waits or fails.
* `script_step_faultless`: a pipe ahead of which lies no fault does not fail.
* `Stalls.of_lt`: until a wait is over nothing changes.
-/

namespace Intercept

namespace Event

/-- Whether an event is no failure; what waits may wait for ever. -/
def isFaultless {α : Type} : Event α → Bool
  | .fault _ => false
  | _ => true

/-- Whether a writing event takes at least one octet or waits. -/
def isAccepting : Event Nat → Bool
  | .item n => 0 < n
  | e => e.isFaultless

theorem isFaultless_of_isCalm {α : Type} {e : Event α} (calm : e.isCalm = true) :
    e.isFaultless = true := by
  cases e with
  | fault f => cases calm
  | item a | delay ms | wakeAt time | yield | hang => rfl

theorem isAccepting_of_isWilling {e : Event Nat} (willing : e.isWilling = true) :
    e.isAccepting = true := by
  cases e with
  | item n => exact willing
  | fault f => cases willing
  | delay ms | wakeAt time | yield | hang => rfl

end Event

namespace Relay

/-- A source and a sink ahead of which no fault lies. -/
structure Faultless (source : List (Event Bytes)) (sink : Sink) : Prop where
  source : ∀ e ∈ source, e.isFaultless = true
  writes : ∀ e ∈ sink.writes, e.isAccepting = true
  flush : sink.flushFault = none
  shutdown : sink.shutdownFault = none

namespace Pipe

variable {size now later : Nat} {p q : Pipe}

/-! ### What a step leaves -/

/-- **What a step leaves of the events.** It takes some from the front of a side, or leaves there a
rest of a piece of data or the end of a wait. -/
theorem script_step {IsRead : Event Bytes → Prop} {IsWrite : Event Nat → Prop}
    (data : ∀ d, IsRead (.item d)) (wait : ∀ time, IsRead (.wakeAt time))
    (waitToWrite : ∀ time, IsWrite (.wakeAt time)) (source : ∀ e ∈ p.source, IsRead e)
    (writes : ∀ e ∈ p.sink.writes, IsWrite e) :
    let Kept (q : Pipe) := (∀ e ∈ q.source, IsRead e) ∧ (∀ e ∈ q.sink.writes, IsWrite e)
      ∧ q.sink.flushFault = p.sink.flushFault ∧ q.sink.shutdownFault = p.sink.shutdownFault
    (p.step size now).Leaves Kept Kept := by
  intro Kept
  have kept : Kept p := ⟨source, writes, rfl, rfl⟩
  unfold step
  cases p.stage with
  | reading =>
    dsimp only
    unfold stepReading
    split
    · exact kept
    all_goals
      rename_i next
      rw [next] at source
      obtain ⟨_, later⟩ := List.forall_mem_cons.mp source
    · exact ⟨later, writes, rfl, rfl⟩
    · refine ⟨?_, writes, rfl, rfl⟩
      split
      · exact List.forall_mem_cons.mpr ⟨data _, later⟩
      · exact later
    · exact ⟨later, writes, rfl, rfl⟩
    · exact ⟨List.forall_mem_cons.mpr ⟨wait _, later⟩, writes, rfl, rfl⟩
    · split
      · exact ⟨later, writes, rfl, rfl⟩
      · exact kept
    · exact ⟨later, writes, rfl, rfl⟩
    · exact kept
  | writing pending =>
    dsimp only
    unfold stepWriting
    split
    · exact kept
    · exact ⟨source, List.forall_mem_nil _, rfl, rfl⟩
    all_goals
      rename_i next
      rw [next] at writes
      obtain ⟨_, later⟩ := List.forall_mem_cons.mp writes
    · exact ⟨source, later, rfl, rfl⟩
    · exact ⟨source, later, rfl, rfl⟩
    · exact ⟨source, later, rfl, rfl⟩
    · exact ⟨source, List.forall_mem_cons.mpr ⟨waitToWrite _, later⟩, rfl, rfl⟩
    · split
      · exact ⟨source, later, rfl, rfl⟩
      · exact kept
    · exact ⟨source, later, rfl, rfl⟩
    · exact kept
  | closing =>
    dsimp only
    unfold stepClosing Sink.flush
    cases flushFault : p.sink.flushFault with
    | some f => exact ⟨source, writes, flushFault.symm, rfl⟩
    | none =>
      dsimp only [Sink.shutdown]
      cases shutdownFault : p.sink.shutdownFault with
      | some f => exact ⟨source, writes, flushFault.symm, shutdownFault.symm⟩
      | none => exact ⟨source, writes, flushFault.symm, shutdownFault.symm⟩
  | done => exact kept

theorem mem_of_mem_wake {α : Type} {now : Nat} {es : List (Event α)} {e : Event α}
    (h : e ∈ wake now es) : e ∈ es := by
  unfold wake at h
  split at h
  · split at h
    · exact List.mem_cons_of_mem _ h
    · exact h
  · exact h

/-! ### What a step tells -/

/-- Whether a pipe has to wait and may not be polled again at once: the source or the sink, as it is
their turn, is asleep or will never do anything. -/
inductive Stalls (now : Nat) (p : Pipe) : Prop where
  | sourceAsleep {time : Nat} {es : List (Event Bytes)} : p.stage = .reading →
      p.source = .wakeAt time :: es → now < time → Stalls now p
  | sourceHangs {es : List (Event Bytes)} : p.stage = .reading → p.source = .hang :: es →
      Stalls now p
  | sinkAsleep {b : UInt8} {bs : Bytes} {time : Nat} {es : List (Event Nat)} :
      p.stage = .writing (b :: bs) → p.sink.writes = .wakeAt time :: es → now < time → Stalls now p
  | sinkHangs {b : UInt8} {bs : Bytes} {es : List (Event Nat)} :
      p.stage = .writing (b :: bs) → p.sink.writes = .hang :: es → Stalls now p

/-- What a step tells of the pipe that made it: why it waits, that it is done, or that a fault lay
ahead. -/
def Progress.Tells (now : Nat) (p : Pipe) : Progress → Prop
  | .running _ => True
  | .waiting q soon => soon = true ∨ q = p ∧ p.Stalls now
  | .finished q => q.stage = .done
  | .failed _ _ => ¬ Faultless p.source p.sink

theorem step_tells (size now : Nat) (p : Pipe) : (p.step size now).Tells now p := by
  unfold step
  cases stage : p.stage with
  | reading =>
    dsimp only
    unfold stepReading
    split
    · trivial
    · trivial
    · trivial
    · rename_i next
      intro faultless
      cases faultless.source _ (next ▸ List.mem_cons_self)
    · trivial
    · rename_i next
      split
      · trivial
      · exact .inr ⟨rfl, .sourceAsleep stage next (by omega)⟩
    · exact .inl rfl
    · rename_i next
      exact .inr ⟨rfl, .sourceHangs stage next⟩
  | writing pending =>
    dsimp only
    unfold stepWriting
    split
    · trivial
    · trivial
    · rename_i next
      intro faultless
      cases faultless.writes _ (next ▸ List.mem_cons_self)
    · trivial
    · rename_i next
      intro faultless
      cases faultless.writes _ (next ▸ List.mem_cons_self)
    · trivial
    · rename_i next
      split
      · trivial
      · exact .inr ⟨rfl, .sinkAsleep stage next (by omega)⟩
    · exact .inl rfl
    · rename_i next
      exact .inr ⟨rfl, .sinkHangs stage next⟩
  | closing =>
    dsimp only
    unfold stepClosing Sink.flush
    cases flushFault : p.sink.flushFault with
    | some f =>
      intro faultless
      cases flushFault.symm.trans faultless.flush
    | none =>
      dsimp only [Sink.shutdown]
      cases shutdownFault : p.sink.shutdownFault with
      | some f =>
        intro faultless
        cases shutdownFault.symm.trans faultless.shutdown
      | none => rfl
  | done => exact stage

/-- A step that has to wait for something to happen changes nothing. -/
theorem stalls_of_step (made : p.step size now = .waiting q false) : q = p ∧ p.Stalls now := by
  have tells := step_tells size now p
  rw [made] at tells
  rcases tells with soon | stalls
  · cases soon
  · exact stalls

theorem stage_of_finished (made : p.step size now = .finished q) : q.stage = .done := by
  have tells := step_tells size now p
  rwa [made] at tells

/-- **Without a fault ahead** a step does not fail, and keeps what is said of the single events. -/
theorem script_step_faultless (faultless : Faultless p.source p.sink)
    {IsRead : Event Bytes → Prop} {IsWrite : Event Nat → Prop} (data : ∀ d, IsRead (.item d))
    (wait : ∀ time, IsRead (.wakeAt time)) (waitToWrite : ∀ time, IsWrite (.wakeAt time))
    (source : ∀ e ∈ p.source, IsRead e) (writes : ∀ e ∈ p.sink.writes, IsWrite e) :
    (p.step size now).Leaves (fun q => (∀ e ∈ q.source, IsRead e) ∧ (∀ e ∈ q.sink.writes, IsWrite e)
      ∧ q.sink.flushFault = none ∧ q.sink.shutdownFault = none) (fun _ => False) := by
  have kept := @script_step size now p IsRead IsWrite data wait waitToWrite source writes
  have tells := step_tells size now p
  cases made : p.step size now with
  | running q | waiting q soon | finished q =>
    rw [made] at kept
    obtain ⟨source, writes, flush, shutdown⟩ := kept
    exact ⟨source, writes, flush.trans faultless.flush, shutdown.trans faultless.shutdown⟩
  | failed q f =>
    rw [made] at tells
    exact tells faultless

/-- No fault lies ahead of such a pipe later. -/
theorem faultless_step (faultless : Faultless p.source p.sink) :
    (p.step size now).Leaves (fun q => Faultless q.source q.sink) (fun _ => False) :=
  (script_step_faultless faultless (fun _ => rfl) (fun _ => rfl) (fun _ => rfl) faultless.source
    faultless.writes).imp (fun _ kept => ⟨kept.1, kept.2.1, kept.2.2.1, kept.2.2.2⟩) (fun _ => id)

/-! ### Stalling -/

/-- A pipe that stalls stays as it is. -/
theorem Stalls.step (stalls : p.Stalls now) : p.step size now = .waiting p false := by
  cases stalls with
  | sourceAsleep stage next early =>
    rw [Pipe.step, stage]
    simp only [stepReading, next, if_neg (Nat.not_le.mpr early)]
  | sourceHangs stage next =>
    rw [Pipe.step, stage]
    simp only [stepReading, next]
  | sinkAsleep stage next early =>
    rw [Pipe.step, stage]
    simp only [stepWriting, next, if_neg (Nat.not_le.mpr early)]
  | sinkHangs stage next =>
    rw [Pipe.step, stage]
    simp only [stepWriting, next]

theorem earlier_le_left (a : Nat) (t : Option Nat) : ∃ n ≤ a, earlier (some a) t = some n := by
  cases t with
  | none => exact ⟨a, Nat.le_refl a, rfl⟩
  | some b => exact ⟨min a b, Nat.min_le_left a b, rfl⟩

theorem earlier_le_right (s : Option Nat) (b : Nat) : ∃ n ≤ b, earlier s (some b) = some n := by
  cases s with
  | none => exact ⟨b, Nat.le_refl b, rfl⟩
  | some a => exact ⟨min a b, Nat.min_le_right a b, rfl⟩

/-- **What stalls goes on stalling** until the next time at which a wait of the pipe is over. -/
theorem Stalls.of_lt (stalls : p.Stalls now)
    (before : ∀ time, p.nextWake = some time → later < time) : p.Stalls later := by
  cases stalls with
  | @sourceAsleep time es stage next early =>
    obtain ⟨first, notAfter, wakes⟩ := earlier_le_left time (wakeTime? p.sink.writes)
    have := before first (by rw [nextWake, next]; exact wakes)
    exact .sourceAsleep stage next (by omega)
  | sourceHangs stage next => exact .sourceHangs stage next
  | @sinkAsleep b bs time es stage next early =>
    obtain ⟨first, notAfter, wakes⟩ := earlier_le_right (wakeTime? p.source) time
    have := before first (by rw [nextWake, next]; exact wakes)
    exact .sinkAsleep stage next (by omega)
  | sinkHangs stage next => exact .sinkHangs stage next

end Pipe

end Relay

end Intercept
