import Intercept.Proofs.Admission.Conservation

/-!
# Who is admitted

A session is admitted as long as shutting down has not begun and a slot is left. The ledger counts
the answers: how many sessions of each transport were admitted, and how many found no slot left.

## Main statements

* `InOrder.enter_cases`: the three answers, and when each is given.
* `InOrder.counts_actAll`: the ledger counts the answers.
-/

namespace Intercept.Admission

variable {m : Admission}

/-! ### Answers -/

/-- The answer to a session that asks to be admitted. -/
abbrev Answer := Transport × Except Refusal Unit

/-- The answer that an action is given, if it asks for one. -/
def answersTo (m : Admission) : Action → List Answer
  | .enter name transport => [(transport, (m.enter name transport).1)]
  | _ => []

/-- The answers that are given in the course of a history. -/
def answers (m : Admission) : List Action → List Answer
  | [] => []
  | a :: history => m.answersTo a ++ (m.act a).answers history

def Answer.admits (transport : Transport) : Answer → Bool
  | (t, .ok ()) => t = transport
  | (_, .error _) => false

def Answer.isLimit : Answer → Bool
  | (_, .error (.limitReached _ _)) => true
  | _ => false

/-! ### One answer -/

theorem InOrder.free_add_held (order : InOrder m) (waitless : m.isDraining = false) :
    m.slots.free + m.held = m.capacity := by
  have conserved := order.conserved
  have none := order.toKept.of_not_isDraining waitless
  simp only [Slots.total] at conserved
  omega

theorem InOrder.active_eq_held (order : InOrder m) (waitless : m.isDraining = false) :
    m.active = m.held := by
  have whole := order.free_add_held waitless
  simp only [active, available]
  omega

/-- If all slots are available, none is held. -/
theorem InOrder.held_eq_zero (order : InOrder m) (returned : m.available = m.capacity) :
    m.held = 0 := by
  have conserved := order.conserved
  simp only [Slots.total] at conserved
  simp only [available] at returned
  omega

/-- The answer to a session, and what becomes of the slots and the ledger with it. -/
theorem InOrder.enter_cases (order : InOrder m) (name : String) (transport : Transport) :
    (m.isShuttingDown = true ∧ m.enter name transport = (.error .shuttingDown, m))
    ∨ (m.isShuttingDown = false ∧ m.held = m.capacity ∧ m.enter name transport =
      (.error (.limitReached m.capacity m.capacity),
        { m with ledger := m.ledger.record .rejected }))
    ∨ (m.isShuttingDown = false ∧ m.held < m.capacity ∧ (m.enter name transport).1 = .ok ()
      ∧ (m.enter name transport).2.ledger = m.ledger.record (.accepted transport)) := by
  by_cases closing : m.isShuttingDown = true
  · exact .inl ⟨closing, if_pos closing⟩
  · have isOpen := Bool.eq_false_iff.mpr closing
    have waitless := isDraining_of_accepting (isShuttingDown_eq_false_iff.mp closing)
    have whole := order.free_add_held waitless
    have active := order.active_eq_held waitless
    cases taken : m.slots.take? with
    | none =>
      have free := Slots.take?_eq_none_iff.mp taken
      have full : m.held = m.capacity := by omega
      refine .inr (.inl ⟨isOpen, full, ?_⟩)
      simp only [Admission.enter, if_neg closing, taken, active, full]
    | some slots =>
      have left := Slots.total_take? taken
      have some : m.slots.free ≠ 0 := by
        intro free
        rw [Slots.take?_eq_none_iff.mpr free] at taken
        cases taken
      refine .inr (.inr ⟨isOpen, by omega, ?_, ?_⟩)
      · simp only [Admission.enter, if_neg closing, taken]
      · simp only [Admission.enter, if_neg closing, taken]
        rfl

/-! ### All answers -/

/-- The counters of the ledger that are about answers. -/
def counts (m : Admission) : (Transport → UInt64) × UInt64 := (m.ledger.accepted, m.ledger.rejected)

/-- Tasks that end enter nothing about admission. -/
theorem countP_reports {sort : Ledger.Entry → Bool}
    (apart : ∀ ending : Ledger.Ending, ending.entries.countP sort = 0) (tasks : List Task) :
    (tasks.flatMap (·.report)).countP sort = 0 := by
  induction tasks with
  | nil => rfl
  | cons t tasks ih =>
    rw [List.flatMap_cons, List.countP_append, ih, Task.report]
    split
    · exact apart _
    · rfl

theorem counts_settle (m : Admission) : m.settle.counts = m.counts := by
  rw [counts, ledger_settle]
  refine Prod.ext (funext fun transport => ?_) ?_
  · refine ((Ledger.counts_accepted transport).recordAll m.ledger _).trans ?_
    rw [countP_reports fun ending => (Ledger.countP_entries ending).1 transport]
    exact UInt64.add_zero _
  · refine (Ledger.counts_rejected.recordAll m.ledger _).trans ?_
    rw [countP_reports fun ending => (Ledger.countP_entries ending).2.1]
    exact UInt64.add_zero _

/-- The counters after some more answers. -/
def countsAfter (before : (Transport → UInt64) × UInt64) (answers : List Answer) :
    (Transport → UInt64) × UInt64 :=
  (fun transport => before.1 transport + .ofNat (answers.countP (Answer.admits transport)),
    before.2 + .ofNat (answers.countP Answer.isLimit))

theorem countsAfter_nil (before : (Transport → UInt64) × UInt64) :
    countsAfter before [] = before := by
  simp [countsAfter]

theorem countsAfter_append (before : (Transport → UInt64) × UInt64) (one more : List Answer) :
    countsAfter before (one ++ more) = countsAfter (countsAfter before one) more := by
  simp [countsAfter, List.countP_append, UInt64.ofNat_add, UInt64.add_assoc]

theorem InOrder.counts_enter (order : InOrder m) (name : String) (transport : Transport) :
    (m.enter name transport).2.counts
      = countsAfter m.counts [(transport, (m.enter name transport).1)] := by
  have accepted (other : Transport) (e : Ledger.Entry) :=
    Ledger.counts_accepted other m.ledger e
  have rejected (e : Ledger.Entry) := Ledger.counts_rejected m.ledger e
  rcases order.enter_cases name transport with
    ⟨_, refused⟩ | ⟨_, _, refused⟩ | ⟨_, _, admitted, entry⟩
  · rw [refused]
    simp [countsAfter, Answer.admits, Answer.isLimit]
  · rw [refused]
    refine Prod.ext (funext fun other => ?_) (rejected .rejected)
    exact accepted other .rejected
  · rw [admitted, counts, entry]
    refine Prod.ext (funext fun other => ?_) (rejected (.accepted transport))
    refine (accepted other (.accepted transport)).trans ?_
    by_cases same : transport = other <;>
      simp [counts, countsAfter, Answer.admits, Ledger.Entry.isAccepted, same]

/-- Whoever does not ask to be admitted changes nothing in the counters. -/
theorem Step.counts {m' : Admission} {a : Action} (step : Step m a m')
    (other : ∀ name transport, a ≠ .enter name transport) : m'.counts = m.counts := by
  cases step with
  | idle | takeSignal => rfl
  | reject name transport | letIn name transport => exact absurd rfl (other name transport)
  | release | spawn | shutdown | tick => exact counts_settle _

theorem InOrder.counts_act (order : InOrder m) (a : Action) :
    (m.act a).counts = countsAfter m.counts (m.answersTo a) := by
  cases a with
  | enter name transport => exact order.counts_enter name transport
  | release | spawn | shutdown | takeSignal | tick =>
    rw [show m.answersTo _ = [] from rfl, countsAfter_nil]
    exact (step_act m _).counts (by simp)

/-- The ledger counts the answers. -/
theorem InOrder.counts_actAll (order : InOrder m) (history : List Action) :
    (m.actAll history).counts = countsAfter m.counts (m.answers history) := by
  induction history generalizing m with
  | nil => exact (countsAfter_nil _).symm
  | cons a history ih =>
    rw [actAll_cons, ih (order.act a), order.counts_act, answers, countsAfter_append]

end Intercept.Admission
