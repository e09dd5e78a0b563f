import Intercept.Proofs.Admission.Limit
import Intercept.Proofs.Admission.Waiting
import Mathlib.Data.List.Induction

/-!
# How a drain ends

A drain is compared with what would become of the sessions without a shutdown. As long as the drain
goes on there is no difference; it ends as soon as few enough slots are held, and then nothing else
has happened, or else at its deadline, and then every task that still runs is aborted.

## Main statements

* `InOrder.standing_closing`: how things stand as long as the drain has not ended before.
* `drain_outcome`: when a drain ends, and what it leaves behind.
-/

namespace Intercept.Admission

variable {m s u called : Admission} {after : List Action}

/-! ### With and without a shutdown -/

/-- Whether an action is about sessions that have been admitted before. -/
def Action.isInner : Action → Bool
  | .release _ | .spawn _ _ _ | .tick => true
  | .enter _ _ | .shutdown | .takeSignal => false

/-- What becomes of the sessions if nothing shuts down and none is added. -/
def undisturbed (called : Admission) (after : List Action) : Admission :=
  called.actAll (after.filter (·.isInner))

/-- A shutdown is called, and then this happens. -/
def closing (called : Admission) (after : List Action) : Admission :=
  called.beginShutdown.actAll after

/-- The last of what happens after a shutdown is what ends its drain. -/
def Returns (called : Admission) (after : List Action) : Prop :=
  (called.closing after).isDraining = false
    ∧ ∀ p, p <+: after → p ≠ after → (called.closing p).isDraining = true

/-- The same sessions hold slots, and the same have ended by themselves. -/
structure SameSessions (s u : Admission) : Prop where
  now : s.now = u.now
  bare : s.bare = u.bare
  running : s.running = u.running
  finished : s.finished = u.finished
  ledger : s.ledger = u.ledger

theorem SameSessions.held (same : SameSessions s u) : s.held = u.held := by
  rw [Admission.held, Admission.held, same.bare, same.running]

theorem SameSessions.endTasks (same : SameSessions s u) : SameSessions s.endTasks u.endTasks := by
  obtain ⟨now, bare, running, finished, ledger⟩ := same
  refine ⟨now, bare, ?_, ?_, ?_⟩ <;>
    simp only [Admission.endTasks, now, running, finished, ledger]

theorem SameSessions.letGo (same : SameSessions s u) (name : String) :
    SameSessions (s.letGo name) (u.letGo name) where
  now := same.now
  bare := congrArg (·.erase name) same.bare
  running := same.running
  finished := same.finished
  ledger := same.ledger

theorem SameSessions.handOver (same : SameSessions s u) (name : String) (millis : Option Nat)
    (ending : Option Ledger.Ending) :
    SameSessions (s.handOver name millis ending) (u.handOver name millis ending) := by
  obtain ⟨now, bare, running, finished, ledger⟩ := same
  refine ⟨now, ?_, ?_, finished, ledger⟩ <;>
    simp only [Admission.handOver, now, bare, running]

theorem SameSessions.at (same : SameSessions s u) (time : Nat) :
    SameSessions { s with now := time } { u with now := time } :=
  ⟨rfl, same.bare, same.running, same.finished, same.ledger⟩

/-- Where nothing is waited for, being settled is what happens to tasks. -/
theorem SameSessions.settle (same : SameSessions s u) (waitless : u.isDraining = false) :
    SameSessions s.endTasks u.settle := by
  rw [Admission.settle, endDrain_of_not_isDraining (m := u.endTasks) waitless]
  exact same.endTasks

/-- What is done to admitted sessions is done to them as without a drain, and then the end of the
drain is looked at. -/
theorem act_of_isInner {a : Action} (inner : a.isInner = true) (order : InOrder s)
    (same : SameSessions s u) (waitless : u.isDraining = false) :
    ∃ s' : Admission, s.act a = s'.endDrain ∧ SameSessions s' (u.act a) ∧ Kept s'
      ∧ s'.stage = s.stage ∧ s'.capacity = s.capacity ∧ s'.now ≤ s.now + 1 := by
  have kept := order.toKept
  cases a with
  | enter | shutdown | takeSignal => cases inner
  | release name =>
    by_cases bare : name ∈ s.bare
    · have also : name ∈ u.bare := same.bare ▸ bare
      simp only [act, release, if_pos bare, if_pos also]
      exact ⟨_, rfl, (same.letGo name).settle waitless, (kept.letGo name).endTasks, rfl, rfl,
        Nat.le_succ _⟩
    · have neither : name ∉ u.bare := same.bare ▸ bare
      simp only [act, release, if_neg bare, if_neg neither]
      exact ⟨s, order.toSettled.endDrain.symm, same, kept, rfl, rfl, Nat.le_succ _⟩
  | spawn name millis ending =>
    by_cases bare : name ∈ s.bare
    · have also : name ∈ u.bare := same.bare ▸ bare
      simp only [act, spawn, if_pos bare, if_pos also]
      exact ⟨_, rfl, (same.handOver name millis ending).settle waitless,
        (kept.handOver bare millis ending).endTasks, rfl, rfl, Nat.le_succ _⟩
    · have neither : name ∉ u.bare := same.bare ▸ bare
      simp only [act, spawn, if_neg bare, if_neg neither]
      exact ⟨s, order.toSettled.endDrain.symm, same, kept, rfl, rfl, Nat.le_succ _⟩
  | tick =>
    refine ⟨_, rfl, ?_, (kept.at (s.now + 1)).endTasks, rfl, rfl, Nat.le_refl _⟩
    rw [act, settleAt, ← same.now]
    exact (same.at (s.now + 1)).settle waitless

/-! ### How things stand -/

/-- How many slots a drain does not ask for. -/
def spare (m : Admission) : Nat := m.capacity - m.request

theorem spare_eq_zero (few : m.capacity ≤ drainLimit) : m.spare = 0 := by
  rw [spare, request, Nat.min_eq_left few, Nat.sub_self]

/-- A drain lacks slots as long as more are held than it can spare. -/
theorem Kept.missing_pos_iff (kept : Kept m) (draining : m.isDraining = true) :
    0 < m.slots.missing ↔ m.spare < m.held := by
  have conserved := kept.conserved
  have asked := kept.asked
  have greedy := m.slots.greedy
  rw [if_pos draining] at asked
  simp only [Slots.total] at conserved
  simp only [spare, request] at asked ⊢
  omega

/-- How things stand with a drain: it goes on, it has ended early, or its time was over. -/
inductive Standing (deadline spare : Nat) (s u : Admission) : Prop where
  | waiting (draining : s.stage = .draining deadline) (same : SameSessions s u)
      (many : spare < u.held) (early : u.now < deadline)
  | drained (closed : s.stage = .closed) (same : SameSessions s u) (unaborted : s.aborted = [])
      (few : u.held ≤ spare) (early : u.now ≤ deadline)
  | timedOut (closed : s.stage = .closed)
      (same : SameSessions { s with running := u.running } u) (emptied : s.running = [])
      (aborted : s.aborted = u.running) (many : spare < u.held) (late : u.now = deadline)

theorem Kept.standing_endDrain (kept : Kept s) (same : SameSessions s u) {deadline : Nat}
    (draining : s.stage = .draining deadline) (early : s.now ≤ deadline) :
    Standing deadline s.spare s.endDrain u := by
  have lacks := kept.missing_pos_iff (isDraining_of_stage draining)
  have unaborted : s.aborted = [] := kept.unaborted (by rw [draining]; exact nofun)
  rw [same.held] at lacks
  rw [same.now] at early
  rcases endDrain_cases s with
    ⟨goesOn, waiting⟩ | ⟨_, complete, ended⟩ | ⟨⟨d, known, late⟩, missing, ended⟩
  · obtain ⟨before, missing⟩ := waiting deadline draining
    rw [goesOn]
    exact .waiting draining same (lacks.mp missing) (same.now ▸ before)
  · rw [ended]
    refine .drained rfl ⟨same.now, same.bare, same.running, same.finished, same.ledger⟩ unaborted ?_
      early
    exact Nat.le_of_not_lt fun many => Nat.ne_of_gt (lacks.mpr many) complete
  · rw [draining] at known
    cases known
    rw [ended]
    refine .timedOut rfl ⟨same.now, same.bare, rfl, same.finished, same.ledger⟩ rfl ?_
      (lacks.mp missing) (Nat.le_antisymm early (same.now ▸ late))
    show s.aborted ++ s.running = u.running
    rw [unaborted, same.running, List.nil_append]

/-- How things stand after one more action. -/
theorem Standing.act {deadline : Nat} (standing : Standing deadline s.spare s u) (order : InOrder s)
    (draining : s.isDraining = true) (waitless : u.isDraining = false) (a : Action) :
    Standing deadline s.spare (s.act a) (if a.isInner then u.act a else u) := by
  cases standing with
  | drained closed | timedOut closed => simp [isDraining, closed] at draining
  | waiting stage same many early =>
    have begun : s.isShuttingDown = true := isShuttingDown_of_stage stage
    by_cases inner : a.isInner = true
    · obtain ⟨s', ended, still, kept, sameStage, whole, step⟩ :=
        act_of_isInner inner order same waitless
      have unspent : s'.spare = s.spare := by simp only [spare, request, whole]
      have intime : s'.now ≤ deadline := by
        have := (order.waiting deadline stage).1
        omega
      rw [if_pos inner, ended, ← unspent]
      exact kept.standing_endDrain still (sameStage.trans stage) intime
    · rw [if_neg inner]
      cases a with
      | release | spawn | tick => exact absurd rfl inner
      | enter name transport =>
        rw [Admission.act, enter, if_pos begun]
        exact .waiting stage same many early
      | shutdown =>
        rw [Admission.act, beginShutdown, if_pos begun]
        exact .waiting stage same many early
      | takeSignal =>
        rw [Admission.act, takeSignal]
        split
        · exact .waiting stage ⟨same.now, same.bare, same.running, same.finished, same.ledger⟩ many
            early
        · exact .waiting stage same many early

theorem InOrder.beginShutdown (order : InOrder m) : InOrder m.beginShutdown := order.act .shutdown

/-- How things stand when a shutdown is called. -/
theorem InOrder.standing_beginShutdown (order : InOrder called)
    (accepting : called.stage = .accepting) :
    Standing (called.now + called.drainMillis) called.spare called.beginShutdown called := by
  have kept := (order.toKept.startDrain accepting).endTasks
  have same : SameSessions called.startDrain.endTasks called := by
    rw [endTasks_of_running (m := called.startDrain) order.running]
    exact ⟨rfl, rfl, rfl, rfl, rfl⟩
  rw [Admission.beginShutdown, if_neg (isShuttingDown_eq_false_iff.mpr accepting)]
  exact kept.standing_endDrain same rfl (Nat.le_add_right _ _)

/-! ### The whole drain -/

theorem closing_append (called : Admission) (p q : List Action) :
    called.closing (p ++ q) = (called.closing p).actAll q := actAll_append _ p q

theorem undisturbed_append_singleton (called : Admission) (after : List Action) (a : Action) :
    called.undisturbed (after ++ [a])
      = if a.isInner then (called.undisturbed after).act a else called.undisturbed after := by
  rw [undisturbed, List.filter_append, actAll_append]
  by_cases inner : a.isInner = true <;> simp [undisturbed, inner]

theorem isShuttingDown_closing (called : Admission) (after : List Action) :
    (called.closing after).isShuttingDown = true :=
  (isShuttingDown_actAll _ after).mpr (.inl (isShuttingDown_beginShutdown called))

theorem isDraining_undisturbed (accepting : called.stage = .accepting) (after : List Action) :
    (called.undisturbed after).isDraining = false := by
  refine isDraining_of_accepting (isShuttingDown_eq_false_iff.mp fun begun => ?_)
  rcases (isShuttingDown_actAll called _).mp begun with before | during
  · exact isShuttingDown_eq_false_iff.mpr accepting before
  · cases (List.mem_filter.mp during).2

theorem InOrder.closing (order : InOrder called) (after : List Action) :
    InOrder (called.closing after) := order.beginShutdown.actAll after

theorem spare_closing (called : Admission) (after : List Action) :
    (called.closing after).spare = called.spare := by
  have whole : (called.closing after).capacity = called.capacity :=
    (terms_actAll called (.shutdown :: after)).1
  simp only [spare, request, whole]

theorem isDraining_of_isPrefix {p : List Action} (earlier : p <+: after)
    (draining : (called.closing after).isDraining = true) :
    (called.closing p).isDraining = true := by
  obtain ⟨q, rfl⟩ := earlier
  rw [closing_append] at draining
  exact isDraining_of_actAll (isShuttingDown_closing called p) draining

theorem ne_append_singleton_of_isPrefix {p : List Action} (earlier : p <+: after) (a : Action) :
    p ≠ after ++ [a] := by
  intro same
  have := earlier.length_le
  rw [same, List.length_append] at this
  exact Nat.not_succ_le_self _ this

/-- **How things stand** with a shutdown whose drain has not ended before. -/
theorem InOrder.standing_closing (order : InOrder called) (accepting : called.stage = .accepting)
    (after : List Action)
    (unended : ∀ p, p <+: after → p ≠ after → (called.closing p).isDraining = true) :
    Standing (called.now + called.drainMillis) called.spare (called.closing after)
      (called.undisturbed after) := by
  -- the last action is the one that may have ended the drain
  induction after using List.reverseRecOn with
  | nil => exact order.standing_beginShutdown accepting
  | append_singleton after a ih =>
    have before : ∀ p, p <+: after → (called.closing p).isDraining = true := fun p earlier =>
      unended p (earlier.trans (List.prefix_append after [a]))
        (ne_append_singleton_of_isPrefix earlier a)
    have standing := ih fun p earlier _ => before p earlier
    rw [← spare_closing called after] at standing ⊢
    rw [closing_append, undisturbed_append_singleton]
    exact standing.act (order.closing after) (before after List.prefix_rfl)
      (isDraining_undisturbed accepting after) a

theorem returns_nil (ended : called.beginShutdown.isDraining = false) : Returns called [] :=
  ⟨ended, fun _ earlier other => absurd (List.prefix_nil.mp earlier) other⟩

/-- A drain that is over has ended at some time. -/
theorem exists_returns (ended : (called.closing after).isDraining = false) :
    ∃ p, p <+: after ∧ Returns called p := by
  induction after using List.reverseRecOn with
  | nil => exact ⟨[], List.prefix_rfl, returns_nil ended⟩
  | append_singleton after a ih =>
    by_cases draining : (called.closing after).isDraining = true
    · refine ⟨after ++ [a], List.prefix_rfl, ended, fun p earlier other => ?_⟩
      have before := (List.prefix_concat_iff.mp earlier).resolve_left other
      exact isDraining_of_isPrefix before draining
    · obtain ⟨p, earlier, returns⟩ := ih (Bool.eq_false_iff.mpr draining)
      exact ⟨p, earlier.trans (List.prefix_append after [a]), returns⟩

/-- A drain goes on as long as more slots are held than it can spare and there is time left. -/
theorem InOrder.isDraining_closing_iff (order : InOrder called)
    (accepting : called.stage = .accepting) (after : List Action) :
    (called.closing after).isDraining = true ↔ ∀ p, p <+: after →
      called.spare < (called.undisturbed p).held
        ∧ (called.undisturbed p).now < called.now + called.drainMillis := by
  constructor
  · intro draining p earlier
    have still := isDraining_of_isPrefix earlier draining
    have standing := order.standing_closing accepting p fun q before _ =>
      isDraining_of_isPrefix before still
    cases standing with
    | waiting _ _ many early => exact ⟨many, early⟩
    | drained closed | timedOut closed => simp [isDraining, closed] at still
  · intro pending
    by_contra gone
    -- when it ended, one of the two was no longer so
    obtain ⟨p, earlier, ended, unended⟩ := exists_returns (Bool.eq_false_iff.mpr gone)
    obtain ⟨many, early⟩ := pending p earlier
    cases order.standing_closing accepting p unended with
    | waiting stage => simp [isDraining, stage] at ended
    | drained _ _ _ few => exact Nat.not_le_of_lt many few
    | timedOut _ _ _ _ _ late => exact Nat.ne_of_lt early late

/-! ### The clock and the signal -/

theorem now_undisturbed (called : Admission) (after : List Action) :
    (called.undisturbed after).now = called.now + after.countP Action.isTick := by
  rw [undisturbed, now_actAll, List.countP_filter]
  congr 2
  funext a
  cases a <;> rfl

theorem takeSignal_eq_true_iff : m.takeSignal.1 = true ↔ m.heard < m.signals := by
  unfold takeSignal
  split <;> simp [*]

/-- The signal is found once. -/
theorem InOrder.takeSignal_actAll (order : InOrder m) (begun : m.isShuttingDown = true)
    (history : List Action) : (m.actAll history).takeSignal.1 = true
      ↔ m.takeSignal.1 = true ∧ .takeSignal ∉ history := by
  induction history generalizing m with
  | nil => simp
  | cons a history ih =>
    have still : (m.act a).isShuttingDown = true := (isShuttingDown_actAll m [a]).mpr (.inl begun)
    have one := order.signalled
    have same := (order.act a).signalled
    rw [begun, if_pos rfl] at one
    rw [still, if_pos rfl] at same
    rw [actAll_cons, ih (order.act a) still, takeSignal_eq_true_iff, takeSignal_eq_true_iff, same,
      one, List.mem_cons]
    by_cases taken : a = .takeSignal
    · subst taken
      have gone : ¬ (m.act .takeSignal).heard < 1 := by
        show ¬ m.takeSignal.2.heard < 1
        rw [takeSignal, one]
        split <;> simp_all
      simp [gone]
    · have other : ¬ .takeSignal = a := fun reversed => taken reversed.symm
      simp [(step_act m a).heard taken, other]

theorem InOrder.takeSignal_of_accepting (order : InOrder m) (accepting : m.stage = .accepting) :
    m.takeSignal.1 = false := by
  refine Bool.eq_false_iff.mpr fun found => ?_
  have none := order.signalled
  rw [if_neg (isShuttingDown_eq_false_iff.mpr accepting)] at none
  have := takeSignal_eq_true_iff.mp found
  omega

theorem InOrder.takeSignal_beginShutdown (order : InOrder m) (accepting : m.stage = .accepting) :
    m.beginShutdown.takeSignal.1 = true := by
  have none := order.signalled
  have one := order.beginShutdown.signalled
  have same : m.beginShutdown.heard = m.heard := (step_act m .shutdown).heard (by simp)
  have heeded := order.heeded
  rw [if_neg (isShuttingDown_eq_false_iff.mpr accepting)] at none
  rw [if_pos (isShuttingDown_beginShutdown m)] at one
  refine takeSignal_eq_true_iff.mpr ?_
  rw [same, one]
  omega

/-! ### Outcomes -/

/-- Nothing but a shutdown closes a fresh admission. -/
theorem accepting_of_not_mem {capacity drainMillis : Nat} {before : List Action}
    (first : .shutdown ∉ before) :
    ((start capacity drainMillis).actAll before).stage = .accepting := by
  refine isShuttingDown_eq_false_iff.mp fun begun => ?_
  rcases (isShuttingDown_actAll _ before).mp begun with closed | mem
  · cases closed
  · exact first mem

/-- A shutdown that nothing else accompanies waits for the end of its drain. -/
theorem InOrder.shutdown_returns (order : InOrder called) (accepting : called.stage = .accepting) :
    ∃ n, called.shutdown = called.closing (.replicate n .tick)
      ∧ Returns called (.replicate n .tick) := by
  obtain ⟨n, reached, during, ended⟩ := order.beginShutdown.join_eq_ticks
  refine ⟨n, ?_, ended, fun p earlier other => ?_⟩
  · rw [shutdown, if_neg (isShuttingDown_eq_false_iff.mpr accepting)]
    exact reached
  · obtain ⟨shorter, ticks⟩ := List.prefix_replicate_iff.mp earlier
    rw [ticks]
    refine during p.length (Nat.lt_of_le_of_ne shorter fun same => other ?_)
    rw [ticks, same]

/-- **The outcome of a drain.** A shutdown is waited for as long as, ever since it was called, slots
are held and there is time left; so it returns, at the latest when its time is over. If no slot is
held any more when it returns, then nothing else has happened to any session. If slots are held, its
time is over, and every task that held one is aborted; the slots that are still held are those that
are held bare. One who has listened from before the shutdown finds its signal once, and later
shutdowns have no effect. -/
theorem drain_outcome (capacity drainMillis : Nat) (before : List Action)
    (few : capacity ≤ drainLimit) (first : .shutdown ∉ before) :
    let called := (start capacity drainMillis).actAll before
    let deadline := called.now + drainMillis
    (∀ after, (called.closing after).isDraining = true ↔ ∀ p, p <+: after →
      0 < (called.undisturbed p).held ∧ (called.undisturbed p).now < deadline)
    ∧ (∀ after, drainMillis ≤ after.countP Action.isTick → ∃ p, p <+: after ∧ Returns called p)
    ∧ (∃ n, called.shutdown = called.closing (.replicate n .tick)
      ∧ Returns called (.replicate n .tick))
    ∧ (∀ after, Returns called after →
      let m := called.closing after
      let u := called.undisturbed after
      (u.held = 0 → SameSessions m u ∧ m.aborted = [] ∧ m.held = 0 ∧ m.now ≤ deadline)
      ∧ (0 < u.held → m.now = deadline ∧ m.aborted = u.running ∧ m.running = []
        ∧ SameSessions { m with running := u.running } u
        ∧ m.held = m.bare.length ∧ m.available + m.bare.length = capacity))
    ∧ (∀ p, p <+: before → ((start capacity drainMillis).actAll p).takeSignal.1 = false)
    ∧ (∀ after, (called.closing after).takeSignal.1 = true ↔ .takeSignal ∉ after)
    ∧ (∀ after, (called.closing after).act .shutdown = called.closing after
      ∧ (called.closing after).shutdown = called.closing after) := by
  intro called deadline
  have order : InOrder called := (inOrder_start capacity drainMillis).actAll before
  have accepting : called.stage = .accepting := accepting_of_not_mem first
  obtain ⟨whole, patience⟩ : called.capacity = capacity ∧ called.drainMillis = drainMillis :=
    terms_actAll _ before
  have none : called.spare = 0 := spare_eq_zero (whole ▸ few)
  have draining_iff (after : List Action) := order.isDraining_closing_iff accepting after
  rw [none, patience] at draining_iff
  refine ⟨draining_iff, fun after passed => ?_, ?_, fun after returns => ?_, fun p earlier => ?_,
    fun after => ?_, fun after => ?_⟩
  · -- at the end of `after` the time is over
    refine exists_returns (Bool.eq_false_iff.mpr fun draining => ?_)
    have early := ((draining_iff after).mp draining after List.prefix_rfl).2
    rw [now_undisturbed] at early
    omega
  · exact order.shutdown_returns accepting
  · have standing := order.standing_closing accepting after returns.2
    have waitless := returns.1
    rw [none, patience] at standing
    intro m u
    have left := (order.closing after).free_add_held waitless
    rw [show (called.closing after).capacity = capacity from
      (terms_actAll called (.shutdown :: after)).1.trans whole] at left
    cases standing with
    | waiting stage => simp [isDraining, stage] at waitless
    | drained _ same unaborted few early =>
      refine ⟨fun empty => ⟨same, unaborted, same.held.trans empty, ?_⟩, fun some => ?_⟩
      · rw [same.now]
        exact early
      · exact absurd few (Nat.not_le_of_lt some)
    | timedOut _ same emptied aborted many late =>
      refine ⟨fun empty => absurd empty (Nat.ne_of_gt many), fun _ => ?_⟩
      have bare : m.held = m.bare.length := by
        rw [held, show m.running = [] from emptied]
        rfl
      exact ⟨same.now.trans late, aborted, emptied, same, bare, bare ▸ left⟩
  · have earlierFirst : .shutdown ∉ p := fun mem => first (earlier.subset mem)
    exact ((inOrder_start capacity drainMillis).actAll p).takeSignal_of_accepting
      (accepting_of_not_mem earlierFirst)
  · rw [closing, order.beginShutdown.takeSignal_actAll (isShuttingDown_beginShutdown called)]
    exact and_iff_right (order.takeSignal_beginShutdown accepting)
  · have begun := isShuttingDown_closing called after
    exact ⟨if_pos begun, if_pos begun⟩

/-- Of two sessions neither ends. After five milliseconds the one that a task carries is aborted,
and the other one still holds its slot. -/
theorem drain_outcome_one_aborted :
    let called := (start 2 5).actAll [.enter "a" .tcp, .spawn "a" none none, .enter "b" .udp]
    let m := called.closing (.replicate 5 .tick)
    2 ≤ drainLimit ∧ m.now = 5 ∧ m.running = [] ∧ m.aborted = called.running ∧ m.held = 1 := by
  intro called m
  have returns : Returns called (.replicate 5 .tick) := by
    refine ⟨by decide, fun p earlier other => ?_⟩
    have before : p <+: .replicate 4 .tick := (List.prefix_concat_iff.mp earlier).resolve_left other
    exact isDraining_of_isPrefix before (by decide)
  have few : 2 ≤ drainLimit := by decide
  obtain ⟨_, _, _, outcome, _⟩ := drain_outcome 2 5
    [.enter "a" .tcp, .spawn "a" none none, .enter "b" .udp] few (by simp)
  obtain ⟨now, aborted, emptied, _, held, _⟩ := (outcome (.replicate 5 .tick) returns).2 (by decide)
  exact ⟨few, now, emptied, aborted, held⟩

end Intercept.Admission
