import Intercept.Proofs.Admission.Limit

/-!
# The accounts of sessions

Here every slot goes to a task that carries a session. The ledger is told that the session was
accepted, and when the task ends by itself it is told how the session ended; when the task is
aborted it is told nothing. So the sessions that were aborted stay active in the ledger for ever.

## Main statements

* `Booked.happenAll`: each session that was accepted holds a slot, has ended or was aborted.
* `accounts_of_sessions`: what the counters say, and when the accounts close.
-/

namespace Intercept.Admission

variable {m : Admission} {entries : List Ledger.Entry}

/-! ### Sessions only -/

/-- What happens where every slot is for a session. -/
inductive Happening where
  /-- A session arrives, which ends after so many milliseconds if any are given. -/
  | arrival (name : String) (transport : Transport) (millis : Option Nat) (ending : Ledger.Ending)
  | shutdown
  | tick

def Happening.isArrival : Happening → Bool
  | .arrival _ _ _ _ => true
  | .shutdown | .tick => false

def happen (m : Admission) : Happening → Admission
  | .arrival name transport millis ending => (m.serve name transport millis ending).2
  | .shutdown => m.beginShutdown
  | .tick => m.settleAt (m.now + 1)

def happenAll (m : Admission) (history : List Happening) : Admission := history.foldl happen m

/-- Whatever happens is done by actions. -/
theorem exists_actAll_happen (m : Admission) (h : Happening) :
    ∃ actions, m.happen h = m.actAll actions := by
  cases h with
  | arrival name transport millis ending =>
    rw [happen, serve]
    split
    · rename_i entered admitted
      refine ⟨[.enter name transport, .spawn name millis (some ending)], ?_⟩
      rw [actAll_cons, act, admitted]
      rfl
    · exact ⟨[.enter name transport], rfl⟩
  | shutdown => exact ⟨[.shutdown], rfl⟩
  | tick => exact ⟨[.tick], rfl⟩

theorem exists_actAll_happenAll (m : Admission) (history : List Happening) :
    ∃ actions, m.happenAll history = m.actAll actions := by
  induction history generalizing m with
  | nil => exact ⟨[], rfl⟩
  | cons h history ih =>
    obtain ⟨first, step⟩ := exists_actAll_happen m h
    obtain ⟨rest, run⟩ := ih (m.happen h)
    refine ⟨first ++ rest, ?_⟩
    rw [actAll_append, ← step]
    exact run

/-- An arrival is given an answer, or its slot is taken and handed over at once. -/
theorem serve_cases (m : Admission) (name : String) (transport : Transport) (millis : Option Nat)
    (ending : Ledger.Ending) :
    (m.serve name transport millis ending).2 = m
    ∨ (m.serve name transport millis ending).2 = { m with ledger := m.ledger.record .rejected }
    ∨ ∃ slots, (m.serve name transport millis ending).2
      = ((m.letIn slots name transport).handOver name millis (some ending)).settle := by
  unfold serve enter
  by_cases closing : m.isShuttingDown = true
  · rw [if_pos closing]
    exact .inl rfl
  · rw [if_neg closing]
    cases m.slots.take? with
    | none => exact .inr (.inl rfl)
    | some slots =>
      have holds : name ∈ (m.letIn slots name transport).bare := List.mem_cons_self
      refine .inr (.inr ⟨slots, ?_⟩)
      dsimp only
      rw [spawn, if_pos holds]

/-! ### The books -/

/-- How many sessions the entries say have been accepted. -/
def arrivals (entries : List Ledger.Entry) : Nat :=
  entries.countP (Ledger.Entry.isAccepted .tcp) + entries.countP (Ledger.Entry.isAccepted .udp)

/-- How many sessions the entries say have ended. -/
def departures (entries : List Ledger.Entry) : Nat :=
  entries.countP Ledger.Entry.isCompleted + entries.countP Ledger.Entry.isFailed

theorem arrivals_append (before after : List Ledger.Entry) :
    arrivals (before ++ after) = arrivals before + arrivals after := by
  simp only [arrivals, List.countP_append]
  omega

theorem departures_append (before after : List Ledger.Entry) :
    departures (before ++ after) = departures before + departures after := by
  simp only [departures, List.countP_append]
  omega

/-- The entries of the ledger account for every session. -/
structure Booked (m : Admission) (entries : List Ledger.Entry) : Prop where
  handed : m.bare = []
  carried : ∀ t ∈ m.running, t.ending.isSome = true
  entered : m.ledger = Ledger.empty.recordAll entries
  balance : arrivals entries = departures entries + m.running.length + m.aborted.length

theorem booked_start (capacity drainMillis : Nat) : Booked (start capacity drainMillis) [] :=
  ⟨rfl, fun _ running => absurd running List.not_mem_nil, rfl, rfl⟩

/-- Every task that ends by itself enters one end. -/
theorem arrivals_reports (tasks : List Task) : arrivals (tasks.flatMap (·.report)) = 0 := by
  have none (transport : Transport) :=
    countP_reports (fun ending => (Ledger.countP_entries ending).1 transport) tasks
  rw [arrivals, none, none]

theorem departures_reports {tasks : List Task} (carried : ∀ t ∈ tasks, t.ending.isSome = true) :
    departures (tasks.flatMap (·.report)) = tasks.length := by
  induction tasks with
  | nil => rfl
  | cons t tasks ih =>
    obtain ⟨ending, carries⟩ := Option.isSome_iff_exists.mp (carried t List.mem_cons_self)
    have one : departures t.report = 1 := by
      rw [Task.report, carries]
      exact (Ledger.countP_entries ending).2.2
    rw [List.flatMap_cons, departures_append, one, List.length_cons,
      ih fun t' later => carried t' (List.mem_cons_of_mem t later)]
    omega

theorem Booked.endTasks (booked : Booked m entries) :
    ∃ more, Booked m.endTasks (entries ++ more) ∧ arrivals more = 0 := by
  let due := m.running.filter (·.hasEnded m.now)
  have carried : ∀ t ∈ due, t.ending.isSome = true := fun t ended =>
    booked.carried t (List.mem_filter.mp ended).1
  have none : arrivals (due.flatMap (·.report)) = 0 := arrivals_reports due
  refine ⟨due.flatMap (·.report), ⟨booked.handed, ?_, ?_, ?_⟩, none⟩
  · exact fun t left => booked.carried t (List.mem_filter.mp left).1
  · rw [Ledger.recordAll_append, ← booked.entered]
    rfl
  · have balance := booked.balance
    have split := length_due m
    rw [arrivals_append, none, departures_append, departures_reports carried]
    simp only [Admission.endTasks, due]
    omega

theorem Booked.endDrain (booked : Booked m entries) : Booked m.endDrain entries := by
  obtain ⟨handed, carried, entered, balance⟩ := booked
  rcases endDrain_cases m with ⟨same, _⟩ | ⟨_, _, ended⟩ | ⟨_, _, ended⟩
  · rw [same]
    exact ⟨handed, carried, entered, balance⟩
  · rw [ended]
    exact ⟨handed, carried, entered, balance⟩
  · rw [ended]
    refine ⟨handed, fun _ running => absurd running List.not_mem_nil, entered, ?_⟩
    -- the tasks that ran have become aborted ones
    simp only [abort, returnFromDrain, List.length_append, List.length_nil]
    omega

theorem Booked.settle (booked : Booked m entries) :
    ∃ more, Booked m.settle (entries ++ more) ∧ arrivals more = 0 := by
  obtain ⟨more, ended, none⟩ := booked.endTasks
  exact ⟨more, ended.endDrain, none⟩

/-- A session that has been accepted is carried by a task. -/
theorem Booked.handOver (booked : Booked m entries) (slots : Slots) (name : String)
    (transport : Transport) (millis : Option Nat) (ending : Ledger.Ending) :
    Booked ((m.letIn slots name transport).handOver name millis (some ending))
      (entries ++ [.accepted transport]) where
  handed := by simp [Admission.handOver, letIn, hold, letGo, booked.handed]
  carried t running := by
    rcases List.mem_append.mp running with before | new
    · obtain ⟨t', ran, rfl⟩ := List.mem_map.mp before
      have carries := booked.carried t' ran
      unfold Task.yieldName
      split <;> exact carries
    · rw [List.mem_singleton.mp new]
      rfl
  entered := by
    rw [Ledger.recordAll_append, ← booked.entered]
    rfl
  balance := by
    have balance := booked.balance
    have arrived : arrivals [.accepted transport] = 1 := by cases transport <;> rfl
    have gone : departures [.accepted transport] = 0 := rfl
    rw [arrivals_append, departures_append, arrived, gone]
    simp only [Admission.handOver, letIn, hold, letGo, List.length_append, List.length_map,
      List.length_singleton]
    omega

/-- Whatever happens, every session is accounted for. -/
theorem Booked.happen (booked : Booked m entries) (h : Happening) :
    ∃ more, Booked (m.happen h) (entries ++ more)
      ∧ arrivals more ≤ if h.isArrival then 1 else 0 := by
  cases h with
  | arrival name transport millis ending =>
    rw [Admission.happen]
    rcases m.serve_cases name transport millis ending with refused | full | ⟨slots, admitted⟩
    · rw [refused]
      exact ⟨[], by simpa using booked, Nat.zero_le 1⟩
    · obtain ⟨handed, carried, entered, balance⟩ := booked
      rw [full]
      refine ⟨[.rejected], ⟨handed, carried, ?_, ?_⟩, Nat.zero_le 1⟩
      · rw [Ledger.recordAll_append, ← entered]
        rfl
      · rw [arrivals_append, departures_append]
        exact balance
    · obtain ⟨more, settled, none⟩ := (booked.handOver slots name transport millis ending).settle
      rw [admitted]
      refine ⟨.accepted transport :: more, by simpa using settled, ?_⟩
      have one : arrivals [.accepted transport] = 1 := by cases transport <;> rfl
      have both := arrivals_append [.accepted transport] more
      rw [List.singleton_append, one, none] at both
      exact Nat.le_of_eq both
  | shutdown =>
    rw [Admission.happen, beginShutdown]
    split
    · exact ⟨[], by simpa using booked, Nat.le_refl 0⟩
    · have begun : Booked m.startDrain entries :=
        ⟨booked.handed, booked.carried, booked.entered, booked.balance⟩
      obtain ⟨more, settled, none⟩ := begun.settle
      exact ⟨more, settled, Nat.le_of_eq none⟩
  | tick =>
    have later : Booked { m with now := m.now + 1 } entries :=
      ⟨booked.handed, booked.carried, booked.entered, booked.balance⟩
    obtain ⟨more, settled, none⟩ := later.settle
    exact ⟨more, settled, Nat.le_of_eq none⟩

/-- Whatever has happened, every session is accounted for. -/
theorem Booked.happenAll (booked : Booked m entries) (history : List Happening) :
    ∃ more, Booked (m.happenAll history) (entries ++ more)
      ∧ arrivals more ≤ history.countP Happening.isArrival := by
  induction history generalizing m entries with
  | nil => exact ⟨[], by simpa [Admission.happenAll] using booked, Nat.le_refl 0⟩
  | cons h history ih =>
    obtain ⟨first, step, one⟩ := booked.happen h
    obtain ⟨rest, run, others⟩ := ih step
    refine ⟨first ++ rest, ?_, ?_⟩
    · rw [← List.append_assoc]
      exact run
    · rw [arrivals_append, List.countP_cons, Nat.add_comm]
      exact Nat.add_le_add others one

/-- The counters say how many sessions were accepted, have ended, and have done neither. -/
theorem Booked.counters (booked : Booked m entries) (few : arrivals entries < UInt64.size) :
    m.ledger.tcpAccepted.toNat + m.ledger.udpFlows.toNat = arrivals entries
    ∧ m.ledger.completed.toNat + m.ledger.failed.toNat = departures entries
    ∧ m.ledger.active.toNat = m.running.length + m.aborted.length := by
  have balance := booked.balance
  have balanced := Ledger.balanced_recordAll entries
  have tcp := (Ledger.counts_accepted .tcp).recordAll .empty entries
  have udp := (Ledger.counts_accepted .udp).recordAll .empty entries
  have completed := Ledger.counts_completed.recordAll .empty entries
  have failed := Ledger.counts_failed.recordAll .empty entries
  rw [← booked.entered] at balanced tcp udp completed failed
  simp only [Ledger.accepted, Ledger.empty, UInt64.zero_add] at tcp udp completed failed
  have small (n : Nat) (le : n ≤ arrivals entries) : (UInt64.ofNat n).toNat = n :=
    UInt64.toNat_ofNat_of_lt' (Nat.lt_of_le_of_lt le few)
  have active : m.ledger.active = .ofNat (m.running.length + m.aborted.length) := by
    rw [Ledger.Balanced, completed, failed, tcp, udp, ← UInt64.ofNat_add, ← UInt64.ofNat_add]
      at balanced
    rw [← UInt64.add_left_inj (.ofNat (departures entries)), ← UInt64.ofNat_add]
    refine balanced.trans (congrArg UInt64.ofNat ?_)
    show arrivals entries = _
    omega
  unfold arrivals departures at *
  rw [tcp, udp, completed, failed, active, small _ (by omega), small _ (by omega),
    small _ (by omega), small _ (by omega), small _ (by omega)]
  exact ⟨rfl, rfl, rfl⟩

/-! ### Closing the accounts -/

/-- No session is active any more, and each that was accepted has completed or failed. -/
def Closes (l : Ledger) : Prop :=
  l.active = 0 ∧ l.tcpAccepted.toNat + l.udpFlows.toNat = l.completed.toNat + l.failed.toNat

/-- **The accounts of sessions.** If fewer than 2^64 sessions arrive, each one accepted counts as
active as long as it holds a slot, and for ever if it was aborted; every other one has completed or
failed. So once all slots have come back, the accounts close exactly if no session was aborted. -/
theorem accounts_of_sessions (capacity drainMillis : Nat) (history : List Happening)
    (few : history.countP Happening.isArrival < UInt64.size) :
    let m := (start capacity drainMillis).happenAll history
    m.ledger.active.toNat = m.held + m.aborted.length
    ∧ m.ledger.tcpAccepted.toNat + m.ledger.udpFlows.toNat
      = m.ledger.completed.toNat + m.ledger.failed.toNat + m.held + m.aborted.length
    ∧ (m.available = capacity → (Closes m.ledger ↔ m.aborted = [])) := by
  intro m
  obtain ⟨entries, booked, most⟩ : ∃ entries, Booked m entries
      ∧ arrivals entries ≤ history.countP Happening.isArrival :=
    (booked_start capacity drainMillis).happenAll history
  obtain ⟨accepted, ended, active⟩ := booked.counters (Nat.lt_of_le_of_lt most few)
  have held : m.held = m.running.length := by
    rw [Admission.held, booked.handed, List.length_nil, Nat.zero_add]
  have balance := booked.balance
  refine ⟨by omega, by omega, fun returned => ?_⟩
  obtain ⟨actions, run⟩ : ∃ actions, m = (start capacity drainMillis).actAll actions :=
    exists_actAll_happenAll _ history
  have order : InOrder m := run ▸ (inOrder_start capacity drainMillis).actAll actions
  have whole : m.capacity = capacity := run ▸ (terms_actAll _ actions).1
  have empty : m.held = 0 := order.held_eq_zero (returned.trans whole.symm)
  rw [Closes, ← UInt64.toNat_inj, accepted, ended, active, ← List.length_eq_zero_iff]
  show m.running.length + m.aborted.length = 0 ∧ _ ↔ _
  omega

/-- One session completes after a millisecond; two more, of which neither ends, are aborted after
five. All slots have come back, and two sessions are still active. -/
theorem accounts_of_sessions_two_aborted :
    let done : Ledger.Ending := ⟨.established, .ok (1, 2)⟩
    let history : List Happening := [.arrival "a" .tcp (some 1) done, .arrival "b" .tcp none done,
      .arrival "c" .udp none done, .shutdown, .tick, .tick, .tick, .tick, .tick]
    let m := (start 4 5).happenAll history
    history.countP Happening.isArrival < UInt64.size ∧ m.available = 4 ∧ m.aborted.length = 2
      ∧ m.ledger.active.toNat = m.held + m.aborted.length ∧ ¬ Closes m.ledger := by
  intro done history
  have few : history.countP Happening.isArrival < UInt64.size := by decide
  have returned : ((start 4 5).happenAll history).available = 4 := by decide
  have aborted : ((start 4 5).happenAll history).aborted.length = 2 := by decide
  obtain ⟨active, _, closes⟩ := accounts_of_sessions 4 5 history few
  refine ⟨few, returned, aborted, active, fun closed => ?_⟩
  rw [(closes returned).mp closed] at aborted
  cases aborted

/-- When all slots have come back the accounts need not close: a session that a drain aborts at once
is active for ever. -/
theorem not_closes_of_aborted :
    ¬ ∀ (capacity drainMillis : Nat) (history : List Happening),
      history.countP Happening.isArrival < UInt64.size →
      let m := (start capacity drainMillis).happenAll history
      m.available = capacity → Closes m.ledger := by
  intro closes
  have closed := closes 1 0 [.arrival "a" .udp none ⟨.established, .ok (0, 0)⟩, .shutdown]
    (by decide) (by decide)
  exact absurd closed.1 (by decide)

end Intercept.Admission
