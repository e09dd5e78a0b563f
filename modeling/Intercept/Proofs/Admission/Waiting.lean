import Intercept.Proofs.Admission.Conservation

/-!
# Waiting

To wait means to let one millisecond pass after the other. Nothing is lost by going from one time at
which something is due to the next, since in between nothing changes but the clock.

## Main statements

* `InOrder.settleAt_eq_ticks`: up to the first time at which something is due, only the clock moves.
* `InOrder.wait_eq_ticks`: waiting for some milliseconds is letting each of them pass.
* `InOrder.join_eq_ticks`: waiting for the end of a drain is letting time pass while it goes on.
-/

namespace Intercept.Admission

variable {m : Admission}

/-! ### Where nothing is due -/

theorem mem_dueTimes {d : Nat} :
    d ∈ m.dueTimes ↔ (∃ t ∈ m.running, t.ends = some d) ∨ m.stage = .draining d := by
  cases stage : m.stage <;> simp [dueTimes, Stage.deadline?, stage, eq_comm]

theorem hasEnded_eq_false_iff {now : Nat} {t : Task} :
    t.hasEnded now = false ↔ ∀ time, t.ends = some time → now < time := by
  unfold Task.hasEnded
  cases t.ends <;> simp

theorem now_settleAt (m : Admission) (time : Nat) : (m.settleAt time).now = time := now_settle _

/-- Nothing that is due was due before. -/
theorem InOrder.now_lt_of_mem_dueTimes (order : InOrder m) {d : Nat} (due : d ∈ m.dueTimes) :
    m.now < d := by
  rcases mem_dueTimes.mp due with ⟨t, running, ends⟩ | draining
  · exact hasEnded_eq_false_iff.mp (order.running t running) d ends
  · exact (order.waiting d draining).1

theorem endTasks_of_running (left : ∀ t ∈ m.running, t.hasEnded m.now = false) :
    m.endTasks = m := by
  have none : m.running.filter (·.hasEnded m.now) = [] := by
    refine List.filter_eq_nil_iff.mpr fun t running => ?_
    rw [left t running]
    exact Bool.false_ne_true
  have all : m.running.filter (!·.hasEnded m.now) = m.running := by
    refine List.filter_eq_self.mpr fun t running => ?_
    rw [left t running]
    rfl
  simp only [endTasks, none, all, List.length_nil, List.append_nil, List.flatMap_nil,
    Slots.giveBack_zero, Ledger.recordAll_nil]

theorem Settled.endDrain (settled : Settled m) : m.endDrain = m := by
  rcases endDrain_cases m with
    ⟨same, _⟩ | ⟨⟨d, draining⟩, complete, _⟩ | ⟨⟨d, draining, late⟩, _, _⟩
  · exact same
  · have missing := (settled.waiting d draining).2
    omega
  · have early := (settled.waiting d draining).1
    omega

/-- Where nothing is due, nothing happens. -/
theorem Settled.settle (settled : Settled m) : m.settle = m := by
  rw [Admission.settle, endTasks_of_running settled.running, settled.endDrain]

/-- Before anything is due, the clock moves and nothing else. -/
theorem InOrder.settled_at (order : InOrder m) {time : Nat}
    (quiet : ∀ d ∈ m.dueTimes, time < d) : Settled { m with now := time } where
  running t running := by
    refine hasEnded_eq_false_iff.mpr fun d ends => ?_
    exact quiet d (mem_dueTimes.mpr (.inl ⟨t, running, ends⟩))
  waiting d draining :=
    ⟨quiet d (mem_dueTimes.mpr (.inr draining)), (order.waiting d draining).2⟩

/-! ### Ticks -/

/-- Lets some milliseconds pass, one after the other. -/
def ticks (m : Admission) (n : Nat) : Admission := m.actAll (.replicate n .tick)

theorem ticks_add (m : Admission) (n k : Nat) : m.ticks (n + k) = (m.ticks n).ticks k := by
  rw [ticks, List.replicate_add, actAll_append]
  rfl

theorem ticks_succ (m : Admission) (n : Nat) : m.ticks (n + 1) = (m.ticks n).act .tick :=
  ticks_add m n 1

theorem InOrder.ticks_quiet (order : InOrder m) (n : Nat)
    (quiet : ∀ d ∈ m.dueTimes, m.now + n < d) : m.ticks n = { m with now := m.now + n } := by
  induction n with
  | zero => rfl
  | succ n ih =>
    rw [ticks_succ, ih fun d due => Nat.lt_of_succ_lt (quiet d due)]
    exact (order.settled_at quiet).settle

/-- Up to the first time at which something is due, only the clock moves. -/
theorem InOrder.settleAt_eq_ticks (order : InOrder m) {time : Nat} (later : m.now ≤ time)
    (quiet : ∀ d ∈ m.dueTimes, time ≤ d) : m.settleAt time = m.ticks (time - m.now) := by
  rcases Nat.eq_or_lt_of_le later with same | later
  · rw [← same, Nat.sub_self]
    exact order.toSettled.settle
  · obtain ⟨n, reached⟩ := Nat.exists_eq_add_of_lt later
    have before : ∀ d ∈ m.dueTimes, m.now + n < d := by
      intro d due
      have := quiet d due
      omega
    rw [reached, show m.now + n + 1 - m.now = n + 1 by omega, ticks_succ,
      order.ticks_quiet n before]
    rfl

theorem now_ticks (m : Admission) (n : Nat) : (m.ticks n).now = m.now + n := by
  rw [ticks, now_actAll, List.countP_replicate]
  rfl

theorem InOrder.ticks (order : InOrder m) (n : Nat) : InOrder (m.ticks n) := order.actAll _

/-- As time passes no one begins to wait. -/
theorem stage_of_settleAt {time deadline : Nat}
    (draining : (m.settleAt time).stage = .draining deadline) : m.stage = .draining deadline :=
  stage_of_settle (m := { m with now := time }) draining

theorem stage_of_ticks {n deadline : Nat} (draining : (m.ticks n).stage = .draining deadline) :
    m.stage = .draining deadline := by
  induction n with
  | zero => exact draining
  | succ n ih =>
    rw [ticks_succ] at draining
    exact ih (stage_of_settleAt draining)

/-- As time passes nothing more becomes due. -/
theorem mem_dueTimes_of_settleAt {d time : Nat} (due : d ∈ (m.settleAt time).dueTimes) :
    d ∈ m.dueTimes := by
  rcases mem_dueTimes.mp due with ⟨t, running, ends⟩ | draining
  · have before := mem_running_of_settle running
    exact mem_dueTimes.mpr (.inl ⟨t, before, ends⟩)
  · exact mem_dueTimes.mpr (.inr (stage_of_settleAt draining))

/-! ### From stop to stop -/

theorem mem_stops {t time : Nat} :
    t ∈ m.stops time ↔ (t ∈ m.dueTimes ∧ m.now < t ∧ t < time) ∨ t = time := by
  rw [stops, List.mem_append, List.mem_mergeSort, List.mem_filter, List.mem_singleton,
    decide_eq_true_iff]

theorem pairwise_stops (m : Admission) (time : Nat) : (m.stops time).Pairwise (· ≤ ·) := by
  refine List.pairwise_append.mpr ⟨?_, List.pairwise_singleton _ _, fun t stop s last => ?_⟩
  · exact (List.pairwise_mergeSort (by grind) (by grind) _).imp of_decide_eq_true
  · have due := List.mem_mergeSort.mp stop
    rw [List.mem_filter, decide_eq_true_iff] at due
    rw [List.mem_singleton.mp last]
    exact Nat.le_of_lt due.2.2

/-- Times in ascending order among which is every time before `time` at which something is due. -/
structure Route (m : Admission) (time : Nat) (times : List Nat) : Prop where
  sorted : times.Pairwise (· ≤ ·)
  range : ∀ t ∈ times, m.now ≤ t ∧ t ≤ time
  whole : ∀ d ∈ m.dueTimes, d < time → d ∈ times

theorem InOrder.route_stops (order : InOrder m) {time : Nat} (later : m.now ≤ time) :
    Route m time (m.stops time) where
  sorted := pairwise_stops m time
  range t stop := by
    rcases mem_stops.mp stop with ⟨_, after, before⟩ | rfl
    · exact ⟨Nat.le_of_lt after, Nat.le_of_lt before⟩
    · exact ⟨later, Nat.le_refl t⟩
  whole d due before := mem_stops.mpr (.inl ⟨due, order.now_lt_of_mem_dueTimes due, before⟩)

theorem Route.quiet {t time : Nat} {times : List Nat} (route : Route m time (t :: times)) :
    ∀ d ∈ m.dueTimes, t ≤ d := by
  intro d due
  by_cases before : d < time
  · rcases List.mem_cons.mp (route.whole d due before) with rfl | later
    · exact Nat.le_refl d
    · exact (List.pairwise_cons.mp route.sorted).1 d later
  · exact Nat.le_trans (route.range t List.mem_cons_self).2 (Nat.le_of_not_lt before)

/-- The rest of the route is one from the first stop. -/
theorem Route.tail (order : InOrder m) {t time : Nat} {times : List Nat}
    (route : Route m time (t :: times)) : Route (m.settleAt t) time times where
  sorted := (List.pairwise_cons.mp route.sorted).2
  range s later := by
    rw [now_settleAt]
    exact ⟨(List.pairwise_cons.mp route.sorted).1 s later,
      (route.range s (List.mem_cons_of_mem t later)).2⟩
  whole d due before := by
    have after := (order.settleAt t).now_lt_of_mem_dueTimes due
    rw [now_settleAt] at after
    have stop := route.whole d (mem_dueTimes_of_settleAt due) before
    exact (List.mem_cons.mp stop).resolve_left (Nat.ne_of_gt after)

/-! ### Waiting is letting time pass -/

/-- Going from one stop of a route to the next is letting time pass up to the last one. -/
theorem InOrder.foldl_settleAt (order : InOrder m) {time : Nat} {times : List Nat}
    (route : Route m time times) (last : m.now = time ∨ time ∈ times) :
    times.foldl Admission.settleAt m = m.ticks (time - m.now) := by
  induction times generalizing m with
  | nil =>
    rw [last.resolve_right List.not_mem_nil, Nat.sub_self]
    rfl
  | cons t times ih =>
    obtain ⟨later, before⟩ := route.range t List.mem_cons_self
    have reached : (m.settleAt t).now = time ∨ time ∈ times := by
      rw [now_settleAt]
      rcases last with same | stop
      · exact .inl (by omega)
      · exact (List.mem_cons.mp stop).imp_left Eq.symm
    rw [List.foldl_cons, ih (order.settleAt t) (route.tail order) reached, now_settleAt,
      order.settleAt_eq_ticks later route.quiet, ← ticks_add]
    congr 1
    omega

/-- **Waiting.** To wait for some milliseconds is to let each of them pass. -/
theorem InOrder.wait_eq_ticks (order : InOrder m) (millis : Nat) :
    m.wait millis = m.ticks millis := by
  have later := Nat.le_add_right m.now millis
  have whole := order.foldl_settleAt (order.route_stops later) (.inr (mem_stops.mpr (.inr rfl)))
  rwa [Nat.add_sub_cancel_left] at whole

theorem foldl_drainAt_of_not_isDraining (ended : m.isDraining = false) (times : List Nat) :
    times.foldl drainAt m = m := by
  induction times with
  | nil => rfl
  | cons t times ih => rwa [List.foldl_cons, drainAt, ended, if_neg Bool.false_ne_true]

/-- Going from stop to stop while a drain goes on is letting time pass while it goes on. -/
theorem InOrder.foldl_drainAt (order : InOrder m) {time : Nat} {times : List Nat}
    (route : Route m time times) : ∃ n, times.foldl drainAt m = m.ticks n
      ∧ (∀ k < n, (m.ticks k).isDraining = true)
      ∧ ((m.ticks n).isDraining = true → ∀ t ∈ times, t ≤ (m.ticks n).now) := by
  induction times generalizing m with
  | nil =>
    exact ⟨0, rfl, fun k before => absurd before (Nat.not_lt_zero k),
      fun _ t stop => absurd stop List.not_mem_nil⟩
  | cons t times ih =>
    by_cases draining : m.isDraining = true
    · have later := (route.range t List.mem_cons_self).1
      obtain ⟨n, reached, during, past⟩ := ih (order.settleAt t) (route.tail order)
      have first := order.settleAt_eq_ticks later route.quiet
      rw [first] at reached during past
      have split (k : Nat) : m.ticks (t - m.now + k) = (m.ticks (t - m.now)).ticks k := ticks_add ..
      refine ⟨t - m.now + n, ?_, fun k before => ?_, fun unended s stop => ?_⟩
      · rw [List.foldl_cons, drainAt, if_pos draining, first, reached, split]
      · by_cases early : k < t - m.now
        · rw [order.ticks_quiet k fun d due => by have := route.quiet d due; omega]
          exact draining
        · obtain ⟨j, rfl⟩ := Nat.exists_eq_add_of_le (Nat.le_of_not_lt early)
          rw [split]
          exact during j (by omega)
      · rcases List.mem_cons.mp stop with rfl | stop
        · rw [now_ticks]
          omega
        · rw [split] at unended ⊢
          exact past unended s stop
    · have ended := Bool.not_eq_true _ ▸ draining
      refine ⟨0, foldl_drainAt_of_not_isDraining ended _, fun k before => ?_, fun unended => ?_⟩
      · exact absurd before (Nat.not_lt_zero k)
      · exact absurd unended draining

/-- **Waiting for a drain.** To wait for the end of a drain is to let time pass until it has
ended. -/
theorem InOrder.join_eq_ticks (order : InOrder m) : ∃ n, m.join = m.ticks n
    ∧ (∀ k < n, (m.ticks k).isDraining = true) ∧ (m.ticks n).isDraining = false := by
  unfold join
  split
  · rename_i deadline draining
    obtain ⟨early, _⟩ := order.waiting deadline draining
    obtain ⟨n, reached, during, past⟩ :=
      order.foldl_drainAt (order.route_stops (Nat.le_of_lt early))
    refine ⟨n, reached, during, Bool.eq_false_iff.mpr fun unended => ?_⟩
    have late := past unended deadline (mem_stops.mpr (.inr rfl))
    obtain ⟨same, still⟩ := exists_deadline unended
    rw [stage_of_ticks still] at draining
    cases draining
    exact Nat.not_le_of_lt ((order.ticks n).waiting deadline still).1 late
  · rename_i other
    refine ⟨0, rfl, fun k before => absurd before (Nat.not_lt_zero k), ?_⟩
    unfold isDraining
    split
    · rename_i deadline draining
      exact absurd draining (other deadline)
    · rfl

end Intercept.Admission
