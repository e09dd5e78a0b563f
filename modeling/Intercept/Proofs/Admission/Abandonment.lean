import Intercept.Proofs.Admission.Drain

/-!
# Sessions that a drain leaves behind

A drain is over before its time only when as many slots have come back as it has asked for. It asks
for all slots as long as their number has 32 bits; if there are more, it can be over while sessions
go on, without an abort.

## Main statements

* `neverAbandons_iff`: the numbers of slots with which a drain leaves no session behind.
-/

namespace Intercept.Admission

/-- With so many slots, whenever a shutdown returns, either no slot is held any more, or its time is
over and every task that would still hold one has been aborted. -/
def NeverAbandons (capacity : Nat) : Prop :=
  ∀ (drainMillis : Nat) (before after : List Action), .shutdown ∉ before →
    let called := (start capacity drainMillis).actAll before
    let m := called.closing after
    Returns called after → m.held = 0 ∨ (called.now + drainMillis ≤ m.now ∧ m.running = []
      ∧ ∀ t ∈ (called.undisturbed after).running, t ∈ m.aborted)

/-- A drain that asks for all slots leaves no session behind. -/
theorem neverAbandons_of_le {capacity : Nat} (few : capacity ≤ drainLimit) :
    NeverAbandons capacity := by
  intro drainMillis before after first called m returns
  have order : InOrder called := (inOrder_start capacity drainMillis).actAll before
  obtain ⟨whole, patience⟩ : called.capacity = capacity ∧ called.drainMillis = drainMillis :=
    terms_actAll _ before
  have none : called.spare = 0 := spare_eq_zero (whole ▸ few)
  have standing := order.standing_closing (accepting_of_not_mem first) after returns.2
  rw [none, patience] at standing
  cases standing with
  | waiting stage =>
    have waitless := returns.1
    simp [isDraining, stage] at waitless
  | drained _ same _ none => exact .inl (same.held.trans (Nat.le_zero.mp none))
  | timedOut _ same emptied aborted _ late =>
    refine .inr ⟨Nat.le_of_eq (late.symm.trans same.now.symm), emptied, fun t running => ?_⟩
    rw [aborted]
    exact running

theorem held_enter_start {capacity drainMillis : Nat} (some : 0 < capacity) (name : String)
    (transport : Transport) :
    ((start capacity drainMillis).actAll [.enter name transport]).held = 1 := by
  have room : capacity ≠ 0 := Nat.ne_of_gt some
  simp [act, enter, start, isShuttingDown, Slots.take?, Slots.ofCount, room, letIn, letGo, hold,
    held]

/-- **No session is left behind** exactly if a drain can ask for all slots. -/
theorem neverAbandons_iff (capacity : Nat) : NeverAbandons capacity ↔ capacity ≤ drainLimit := by
  refine ⟨fun never => ?_, neverAbandons_of_le⟩
  by_contra many
  -- one session, and the drain can spare the slot that it holds
  let called := (start capacity 1).actAll [.enter "a" .tcp]
  have order : InOrder called := (inOrder_start capacity 1).actAll _
  have first : .shutdown ∉ [Action.enter "a" .tcp] := by simp
  have one : called.held = 1 := held_enter_start (by omega) "a" .tcp
  have spared : called.held ≤ called.spare := by
    have whole : called.capacity = capacity := (terms_actAll _ [.enter "a" .tcp]).1
    rw [one, spare, request, whole]
    omega
  cases order.standing_beginShutdown (accepting_of_not_mem first) with
  | waiting _ _ more | timedOut _ _ _ _ more => exact Nat.not_le_of_lt more spared
  | drained closed same =>
    have ended : called.beginShutdown.isDraining = false := by simp [isDraining, closed]
    rcases never 1 [.enter "a" .tcp] [] first (returns_nil ended) with empty | ⟨late, _⟩
    · have still : called.beginShutdown.held = 1 := same.held.trans one
      exact Nat.one_ne_zero (still.symm.trans empty)
    · have now : called.beginShutdown.now = called.now := same.now
      have late : called.now + 1 ≤ called.beginShutdown.now := late
      omega

/-- With 2^32 slots a shutdown returns at once while a task goes on that is never aborted. -/
theorem not_neverAbandons_two_pow_32 : ¬ NeverAbandons 4294967296 := by
  intro never
  have returns :
      Returns ((start 4294967296 1000).actAll [.enter "a" .tcp, .spawn "a" none none]) [] :=
    returns_nil (by decide)
  rcases never 1000 _ [] (by simp) returns with empty | ⟨late, _⟩
  · exact absurd empty (by decide)
  · exact absurd late (by decide)

end Intercept.Admission
