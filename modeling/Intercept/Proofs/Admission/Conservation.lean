import Intercept.Proofs.Admission.Steps
import Mathlib.Data.List.Basic

/-!
# Every slot is accounted for

A slot is free, set aside for a drain, held bare or held by a task, and whatever is done, no slot is
lost and none appears. A drain gets together exactly what it has asked for, and holds nothing back
once it is over. Whatever is due has happened before anything else is done.

## Main statements

* `Kept.settle`: once everything due has happened, the slots are in order.
* `InOrder.step`, `InOrder.actAll`: a step keeps them in order, and so does every history.
-/

namespace Intercept.Admission

variable {m m' : Admission} {a : Action}

/-! ### Slots and signals -/

/-- What is true of the slots whether or not something is due. -/
structure Kept (m : Admission) : Prop where
  conserved : m.slots.total + m.held = m.capacity
  /-- A drain gets together what it has asked for, and outside of a drain nothing is set aside. -/
  asked : m.slots.collected + m.slots.missing = if m.isDraining then m.request else 0
  unaborted : m.stage ≠ .closed → m.aborted = []
  signalled : m.signals = if m.isShuttingDown then 1 else 0
  heeded : m.heard ≤ m.signals

theorem Kept.of_not_isDraining (kept : Kept m) (waitless : m.isDraining = false) :
    m.slots.collected = 0 ∧ m.slots.missing = 0 := by
  have asked := kept.asked
  rw [waitless, if_neg Bool.false_ne_true] at asked
  omega

theorem length_due (m : Admission) :
    (m.running.filter (·.hasEnded m.now)).length + (m.running.filter (!·.hasEnded m.now)).length
      = m.running.length :=
  (List.length_eq_length_filter_add fun t : Task => t.hasEnded m.now).symm

theorem Kept.endTasks (kept : Kept m) : Kept m.endTasks where
  conserved := by
    have conserved := kept.conserved
    have split := length_due m
    simp only [held, Admission.endTasks, Slots.total_giveBack] at conserved ⊢
    omega
  asked := (Slots.collected_add_missing_giveBack _ _).trans kept.asked
  unaborted := kept.unaborted
  signalled := kept.signalled
  heeded := kept.heeded

theorem Kept.returnFromDrain (kept : Kept m) (draining : m.isShuttingDown = true) :
    Kept m.returnFromDrain where
  conserved := kept.conserved
  asked := rfl
  unaborted := fun unclosed => absurd rfl unclosed
  signalled := by
    have signalled := kept.signalled
    rw [draining, if_pos rfl] at signalled
    rw [if_pos (by simp [isShuttingDown, Admission.returnFromDrain])]
    exact signalled
  heeded := kept.heeded

theorem Kept.abort (kept : Kept m) (closed : m.stage = .closed) : Kept m.abort where
  conserved := by
    have conserved := kept.conserved
    simp only [held, Admission.abort, Slots.total_giveBack, List.length_nil] at conserved ⊢
    omega
  asked := (Slots.collected_add_missing_giveBack _ _).trans kept.asked
  unaborted := fun unclosed => absurd closed unclosed
  signalled := kept.signalled
  heeded := kept.heeded

theorem Kept.endDrain (kept : Kept m) : Kept m.endDrain := by
  rcases endDrain_cases m with ⟨same, _⟩ | ⟨⟨d, draining⟩, _, ended⟩ | ⟨⟨d, draining, _⟩, _, ended⟩
  · rwa [same]
  · rw [ended]
    exact kept.returnFromDrain (isShuttingDown_of_stage draining)
  · rw [ended]
    exact (kept.returnFromDrain (isShuttingDown_of_stage draining)).abort rfl

/-! ### What is due -/

/-- Nothing is due any more. -/
structure Settled (m : Admission) : Prop where
  running : ∀ t ∈ m.running, t.hasEnded m.now = false
  waiting : ∀ deadline, m.stage = .draining deadline → m.now < deadline ∧ 0 < m.slots.missing

theorem settled_settle (m : Admission) : m.settle.Settled := by
  have left : ∀ t ∈ m.endTasks.running, t.hasEnded m.now = false := by
    intro t running
    simpa using (List.mem_filter.mp running).2
  unfold settle
  rcases endDrain_cases m.endTasks with ⟨same, waiting⟩ | ⟨_, _, ended⟩ | ⟨_, _, ended⟩
  · rw [same]
    exact ⟨left, waiting⟩
  · rw [ended]
    exact ⟨left, fun _ draining => by cases draining⟩
  · rw [ended]
    refine ⟨fun t running => ?_, fun _ draining => by cases draining⟩
    cases running

/-- Every slot is accounted for, and nothing is due. -/
structure InOrder (m : Admission) : Prop extends Kept m, Settled m

theorem Kept.settle (kept : Kept m) : InOrder m.settle :=
  { kept.endTasks.endDrain, settled_settle m with }

/-! ### Actions -/

/-- Who holds a slot bare and lets it go gives it back. -/
theorem Kept.letGo (kept : Kept m) (name : String) : Kept (m.letGo name) where
  conserved := by
    have conserved := kept.conserved
    simp only [held, Admission.letGo, Slots.total_giveBack, List.length_erase] at conserved ⊢
    split
    · have some := List.length_pos_of_mem ‹name ∈ m.bare›
      omega
    · omega
  asked := (Slots.collected_add_missing_giveBack _ _).trans kept.asked
  unaborted := kept.unaborted
  signalled := kept.signalled
  heeded := kept.heeded

theorem Kept.handOver (kept : Kept m) {name : String} (bare : name ∈ m.bare) (millis : Option Nat)
    (ending : Option Ledger.Ending) : Kept (m.handOver name millis ending) where
  conserved := by
    have conserved := kept.conserved
    have shorter := List.length_erase_of_mem bare
    have some := List.length_pos_of_mem bare
    simp only [held, Admission.handOver, List.length_append, List.length_map, List.length_singleton]
      at conserved ⊢
    omega
  asked := kept.asked
  unaborted := kept.unaborted
  signalled := kept.signalled
  heeded := kept.heeded

/-- Who is let in holds the slot that has been taken. -/
theorem Kept.letIn (kept : Kept m) {slots : Slots} (taken : m.slots.take? = some slots)
    (name : String) (transport : Transport) : Kept (m.letIn slots name transport) where
  conserved := by
    -- one slot less is with nobody, and one name more holds one
    have conserved := kept.conserved
    have less := Slots.total_take? taken
    simp only [held, Admission.letIn, hold, Admission.letGo, Slots.total_giveBack, List.length_cons,
      List.length_erase] at conserved ⊢
    split
    · have some := List.length_pos_of_mem ‹name ∈ m.bare›
      omega
    · omega
  asked := by
    have asked := kept.asked
    obtain ⟨collected, missing⟩ := Slots.collected_take? taken
    rw [← collected, ← missing] at asked
    exact (Slots.collected_add_missing_giveBack _ _).trans asked
  unaborted := kept.unaborted
  signalled := kept.signalled
  heeded := kept.heeded

/-- A drain begins by asking for slots. -/
theorem Kept.startDrain (kept : Kept m) (accepting : m.stage = .accepting) :
    Kept m.startDrain where
  conserved := by
    have asked : m.startDrain.slots.total = m.slots.total := Slots.total_ask _ _
    rw [asked]
    exact kept.conserved
  asked := by
    obtain ⟨collected, missing⟩ := kept.of_not_isDraining (isDraining_of_accepting accepting)
    have asked := Slots.collected_add_missing_ask m.slots m.request
    rw [collected, missing, Nat.zero_add] at asked
    exact asked
  unaborted _ := kept.unaborted (by rw [accepting]; exact nofun)
  signalled := by
    have signalled := kept.signalled
    rw [if_neg (isShuttingDown_eq_false_iff.mpr accepting)] at signalled
    exact congrArg (· + 1) signalled
  heeded := Nat.le_succ_of_le kept.heeded

theorem Kept.at (kept : Kept m) (time : Nat) : Kept { m with now := time } :=
  ⟨kept.conserved, kept.asked, kept.unaborted, kept.signalled, kept.heeded⟩

theorem InOrder.settleAt (order : InOrder m) (time : Nat) : InOrder (m.settleAt time) :=
  (order.toKept.at time).settle

/-- Whatever is done, the slots stay in order. -/
theorem InOrder.step (order : InOrder m) (step : Step m a m') : InOrder m' := by
  have kept := order.toKept
  cases step with
  | idle => exact order
  | reject =>
    exact ⟨⟨kept.conserved, kept.asked, kept.unaborted, kept.signalled, kept.heeded⟩,
      order.running, order.waiting⟩
  | letIn name transport accepting taken =>
    refine ⟨kept.letIn taken name transport, order.running, fun deadline draining => ?_⟩
    exact absurd (accepting.symm.trans draining) (by simp)
  | release bare => exact (kept.letGo _).settle
  | spawn bare millis ending => exact (kept.handOver bare millis ending).settle
  | shutdown accepting => exact (kept.startDrain accepting).settle
  | takeSignal unheard =>
    exact ⟨⟨kept.conserved, kept.asked, kept.unaborted, kept.signalled, unheard⟩,
      order.running, order.waiting⟩
  | tick => exact order.settleAt _

theorem InOrder.act (order : InOrder m) (a : Action) : InOrder (m.act a) :=
  order.step (step_act m a)

theorem inOrder_start (capacity drainMillis : Nat) : InOrder (start capacity drainMillis) where
  conserved := rfl
  asked := rfl
  unaborted _ := rfl
  signalled := rfl
  heeded := Nat.le_refl 0
  running _ running := nomatch running
  waiting _ draining := nomatch draining

/-- **Every slot is accounted for.** The slots are in order at every moment of every history. -/
theorem InOrder.actAll (order : InOrder m) (history : List Action) :
    InOrder (m.actAll history) := by
  induction history generalizing m with
  | nil => exact order
  | cons a history ih => exact ih (order.act a)

end Intercept.Admission
