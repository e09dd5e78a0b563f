import Intercept.Admission

/-!
# What is done to slots, step by step

Every action is one of a few steps, or changes nothing. What a step leaves alone, and so what a
whole history leaves alone, is read off from that.

## Main statements

* `endDrain_cases`: the three ways in which the end of a drain is looked at.
* `step_act`: what an action does is a step.
* `terms_actAll`, `now_actAll`, `isShuttingDown_actAll`: what a history does to the terms, to the
  clock, and to the doors.
-/

namespace Intercept.Admission

variable {m m' : Admission} {a : Action}

/-! ### Stages -/

theorem isShuttingDown_eq_false_iff : ¬ m.isShuttingDown = true ↔ m.stage = .accepting := by
  simp [isShuttingDown]

theorem isDraining_of_accepting (accepting : m.stage = .accepting) : m.isDraining = false := by
  simp [isDraining, accepting]

theorem isShuttingDown_of_stage {deadline : Nat} (draining : m.stage = .draining deadline) :
    m.isShuttingDown = true := by
  simp [isShuttingDown, draining]

/-! ### The end of a drain -/

theorem endDrain_cases (m : Admission) :
    (m.endDrain = m ∧ ∀ deadline, m.stage = .draining deadline →
      m.now < deadline ∧ 0 < m.slots.missing)
    ∨ ((∃ deadline, m.stage = .draining deadline) ∧ m.slots.missing = 0
      ∧ m.endDrain = m.returnFromDrain)
    ∨ ((∃ deadline, m.stage = .draining deadline ∧ deadline ≤ m.now) ∧ 0 < m.slots.missing
      ∧ m.endDrain = m.returnFromDrain.abort) := by
  unfold endDrain
  split
  · rename_i deadline draining
    by_cases complete : m.slots.missing = 0
    · exact .inr (.inl ⟨⟨deadline, draining⟩, complete, if_pos complete⟩)
    · have missing : 0 < m.slots.missing := Nat.pos_of_ne_zero complete
      rw [if_neg complete]
      by_cases late : deadline ≤ m.now
      · exact .inr (.inr ⟨⟨deadline, draining, late⟩, missing, if_pos late⟩)
      · refine .inl ⟨if_neg late, ?_⟩
        intro other same
        rw [draining] at same
        cases same
        exact ⟨Nat.lt_of_not_le late, missing⟩
  · rename_i other
    exact .inl ⟨rfl, fun deadline draining => absurd draining (other deadline)⟩

theorem endDrain_of_not_isDraining (waitless : m.isDraining = false) : m.endDrain = m := by
  unfold endDrain
  split
  · rename_i deadline draining
    simp [isDraining, draining] at waitless
  · rfl

theorem isDraining_of_stage {deadline : Nat} (draining : m.stage = .draining deadline) :
    m.isDraining = true := by
  simp [isDraining, draining]

theorem exists_deadline (draining : m.isDraining = true) :
    ∃ deadline, m.stage = .draining deadline := by
  unfold isDraining at draining
  split at draining
  · exact ⟨_, ‹_›⟩
  · cases draining

/-! ### What being settled leaves alone -/

/-- Being settled changes who holds slots, and what the tasks that have ended entered. -/
theorem settle_eq (m : Admission) : ∃ slots running aborted stage,
    m.settle = { m.endTasks with slots, running, aborted, stage } := by
  unfold settle
  rcases endDrain_cases m.endTasks with ⟨same, _⟩ | ⟨_, _, ended⟩ | ⟨_, _, ended⟩
  · exact ⟨_, _, _, _, same⟩
  · exact ⟨_, _, _, _, ended⟩
  · exact ⟨_, _, _, _, ended⟩

@[simp]
theorem capacity_settle (m : Admission) : m.settle.capacity = m.capacity := by
  obtain ⟨_, _, _, _, same⟩ := settle_eq m
  rw [same]
  rfl

@[simp]
theorem drainMillis_settle (m : Admission) : m.settle.drainMillis = m.drainMillis := by
  obtain ⟨_, _, _, _, same⟩ := settle_eq m
  rw [same]
  rfl

@[simp]
theorem now_settle (m : Admission) : m.settle.now = m.now := by
  obtain ⟨_, _, _, _, same⟩ := settle_eq m
  rw [same]
  rfl

@[simp]
theorem heard_settle (m : Admission) : m.settle.heard = m.heard := by
  obtain ⟨_, _, _, _, same⟩ := settle_eq m
  rw [same]
  rfl

@[simp]
theorem ledger_settle (m : Admission) : m.settle.ledger = m.endTasks.ledger := by
  obtain ⟨_, _, _, _, same⟩ := settle_eq m
  rw [same]

/-- The end of a drain does not open admission again. -/
@[simp]
theorem isShuttingDown_settle (m : Admission) : m.settle.isShuttingDown = m.isShuttingDown := by
  have same : m.endTasks.isShuttingDown = m.isShuttingDown := rfl
  unfold settle
  rcases endDrain_cases m.endTasks with
    ⟨kept, _⟩ | ⟨⟨d, draining⟩, _, ended⟩ | ⟨⟨d, draining, _⟩, _, ended⟩
  · rw [kept, same]
  · rw [ended, ← same]
    simp [isShuttingDown, returnFromDrain, draining]
  · rw [ended, ← same]
    simp [isShuttingDown, returnFromDrain, abort, draining]

/-- Being settled makes no one wait. -/
theorem stage_of_settle {deadline : Nat} (draining : m.settle.stage = .draining deadline) :
    m.stage = .draining deadline := by
  unfold settle at draining
  rcases endDrain_cases m.endTasks with ⟨same, _⟩ | ⟨_, _, ended⟩ | ⟨_, _, ended⟩
  · rwa [same] at draining
  · rw [ended] at draining
    cases draining
  · rw [ended] at draining
    cases draining

/-- Being settled starts no task. -/
theorem mem_running_of_settle {t : Task} (running : t ∈ m.settle.running) : t ∈ m.running := by
  have some : t ∈ m.endTasks.running := by
    unfold settle at running
    rcases endDrain_cases m.endTasks with ⟨same, _⟩ | ⟨_, _, ended⟩ | ⟨_, _, ended⟩
    · rwa [same] at running
    · rwa [ended] at running
    · rw [ended] at running
      exact absurd running List.not_mem_nil
  exact (List.mem_filter.mp some).1

/-! ### Steps -/

/-- What an action can do. A step that has something due at its end is settled. -/
inductive Step (m : Admission) : Action → Admission → Prop where
  | idle (a : Action) : Step m a m
  | reject (name : String) (transport : Transport) (accepting : m.stage = .accepting) :
    Step m (.enter name transport) { m with ledger := m.ledger.record .rejected }
  | letIn (name : String) (transport : Transport) (accepting : m.stage = .accepting) {slots : Slots}
    (taken : m.slots.take? = some slots) :
    Step m (.enter name transport) (m.letIn slots name transport)
  | release {name : String} (bare : name ∈ m.bare) : Step m (.release name) (m.letGo name).settle
  | spawn {name : String} (bare : name ∈ m.bare) (millis : Option Nat)
    (ending : Option Ledger.Ending) :
    Step m (.spawn name millis ending) (m.handOver name millis ending).settle
  | shutdown (accepting : m.stage = .accepting) : Step m .shutdown m.startDrain.settle
  | takeSignal (unheard : m.heard < m.signals) :
    Step m .takeSignal { m with heard := m.heard + 1 }
  | tick : Step m .tick (m.settleAt (m.now + 1))

theorem step_act (m : Admission) (a : Action) : Step m a (m.act a) := by
  cases a with
  | enter name transport =>
    rw [act, enter]
    split
    · exact .idle _
    · have accepting := isShuttingDown_eq_false_iff.mp ‹_›
      split
      · exact .reject name transport accepting
      · exact .letIn name transport accepting ‹_›
  | release name =>
    rw [act, release]
    split
    · exact .release ‹_›
    · exact .idle _
  | spawn name millis ending =>
    rw [act, spawn]
    split
    · exact .spawn ‹_› millis ending
    · exact .idle _
  | shutdown =>
    rw [act, beginShutdown]
    split
    · exact .idle _
    · exact .shutdown (isShuttingDown_eq_false_iff.mp ‹_›)
  | takeSignal =>
    rw [act, takeSignal]
    split
    · exact .takeSignal ‹_›
    · exact .idle _
  | tick => exact .tick

/-! ### What a step leaves alone -/

/-- No step changes how many slots there are, or how long a drain may take. -/
theorem Step.terms (step : Step m a m') :
    m'.capacity = m.capacity ∧ m'.drainMillis = m.drainMillis := by
  cases step with
  | idle | reject | letIn | takeSignal => exact ⟨rfl, rfl⟩
  | release | spawn | shutdown | tick => exact ⟨capacity_settle _, drainMillis_settle _⟩

def Action.isTick : Action → Bool
  | .tick => true
  | _ => false

theorem Step.now (step : Step m a m') (timeless : a.isTick = false) : m'.now = m.now := by
  cases step with
  | idle | reject | letIn | takeSignal => rfl
  | release | spawn | shutdown => exact now_settle _
  | tick => cases timeless

theorem Step.heard (step : Step m a m') (other : a ≠ .takeSignal) : m'.heard = m.heard := by
  cases step with
  | idle | reject | letIn => rfl
  | release | spawn | shutdown | tick => exact heard_settle _
  | takeSignal => exact absurd rfl other

/-- Nothing but a shutdown closes admission. -/
theorem Step.isShuttingDown (step : Step m a m') (other : a ≠ .shutdown) :
    m'.isShuttingDown = m.isShuttingDown := by
  cases step with
  | idle | reject | letIn | takeSignal => rfl
  | release | spawn | tick => exact isShuttingDown_settle _
  | shutdown => exact absurd rfl other

/-- A drain that has ended does not begin again. -/
theorem Step.isDraining (step : Step m a m') (begun : m.isShuttingDown = true)
    (draining : m'.isDraining = true) : m.isDraining = true := by
  obtain ⟨d, stage⟩ := exists_deadline draining
  cases step with
  | idle | takeSignal => exact draining
  | reject _ _ accepting | letIn _ _ accepting | shutdown accepting =>
    exact absurd begun (isShuttingDown_eq_false_iff.mpr accepting)
  | release => exact isDraining_of_stage (stage_of_settle (m := m.letGo _) stage)
  | spawn => exact isDraining_of_stage (stage_of_settle (m := m.handOver _ _ _) stage)
  | tick => exact isDraining_of_stage (stage_of_settle (m := { m with now := m.now + 1 }) stage)

/-! ### What a history does -/

theorem terms_actAll (m : Admission) (history : List Action) :
    (m.actAll history).capacity = m.capacity ∧ (m.actAll history).drainMillis = m.drainMillis := by
  induction history generalizing m with
  | nil => exact ⟨rfl, rfl⟩
  | cons a history ih =>
    obtain ⟨capacity, drainMillis⟩ := (step_act m a).terms
    rw [actAll_cons, ← capacity, ← drainMillis]
    exact ih (m.act a)

theorem now_actAll (m : Admission) (history : List Action) :
    (m.actAll history).now = m.now + history.countP Action.isTick := by
  induction history generalizing m with
  | nil => rfl
  | cons a history ih =>
    rw [actAll_cons, ih, List.countP_cons]
    by_cases time : a.isTick = true
    · have later : (m.act a).now = m.now + 1 := by
        cases a with
        | tick => exact now_settle _
        | _ => cases time
      rw [later, if_pos time]
      omega
    · rw [(step_act m a).now (Bool.eq_false_iff.mpr time), if_neg time, Nat.add_zero]

theorem isShuttingDown_beginShutdown (m : Admission) : m.beginShutdown.isShuttingDown = true := by
  unfold beginShutdown
  split
  · assumption
  · exact isShuttingDown_settle _

theorem isShuttingDown_actAll (m : Admission) (history : List Action) :
    (m.actAll history).isShuttingDown = true ↔ m.isShuttingDown = true ∨ .shutdown ∈ history := by
  induction history generalizing m with
  | nil => simp
  | cons a history ih =>
    rw [actAll_cons, ih, List.mem_cons]
    by_cases begun : a = .shutdown
    · subst begun
      simp [act, isShuttingDown_beginShutdown]
    · rw [(step_act m a).isShuttingDown begun]
      have other : ¬ .shutdown = a := fun same => begun same.symm
      simp [other]

theorem isDraining_of_actAll {history : List Action} (begun : m.isShuttingDown = true)
    (draining : (m.actAll history).isDraining = true) : m.isDraining = true := by
  induction history generalizing m with
  | nil => exact draining
  | cons a history ih =>
    have still : (m.act a).isShuttingDown = true := (isShuttingDown_actAll m [a]).mpr (.inl begun)
    exact (step_act m a).isDraining begun (ih still draining)

end Intercept.Admission
