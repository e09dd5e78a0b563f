import Intercept.Proofs.Admission.Limit

/-!
# What becomes of permits

A session that is admitted is given a permit for its slot. Whoever sees what is done and who is
admitted can keep account of the permits without looking at any slot: a permit is kept under its
name until it comes back or is handed to a task. The slots that are held are the permits that have
not come back: neither by name, nor with a task that has ended, nor with one that was aborted.

## Main statements

* `Accounted.act`: an action keeps the permits accounted for.
* `admits_within_capacity`: what is true of the slots and of the next answer at every moment.
-/

namespace Intercept.Admission

open scoped List

/-- An account of permits, kept by someone who sees no slots. -/
structure Permits where
  now : Nat
  /-- The names under which permits are kept. -/
  kept : List String
  /-- When the tasks end that permits were handed to, if they end by themselves. -/
  handed : List (Option Nat)
  /-- How many permits have come back by name. -/
  back : Nat

namespace Permits

def none : Permits := ⟨0, [], [], 0⟩

/-- How many permits have been given out. -/
def issued (p : Permits) : Nat := p.kept.length + p.handed.length + p.back

/-- The permit that is kept under a name comes back, if there is one. -/
def comeBack (p : Permits) (name : String) : Permits :=
  if name ∈ p.kept then { p with kept := p.kept.erase name, back := p.back + 1 } else p

/-- A permit is kept under a name from now on; if one has been, that one comes back. -/
def give (p : Permits) (name : String) : Permits :=
  { p.comeBack name with kept := name :: (p.comeBack name).kept }

/-- The permit that is kept under a name goes to a task that ends after so many milliseconds, if any
are given. -/
def hand (p : Permits) (name : String) (millis : Option Nat) : Permits :=
  if name ∈ p.kept then
    { p with kept := p.kept.erase name, handed := p.handed ++ [millis.map (p.now + ·)] }
  else p

/-- The account after an action; `admitted` says whether the action was granted a permit. -/
def follow (p : Permits) (admitted : Bool) : Action → Permits
  | .enter name _ => if admitted then p.give name else p
  | .release name => p.comeBack name
  | .spawn name millis _ => p.hand name millis
  | .tick => { p with now := p.now + 1 }
  | .shutdown | .takeSignal => p

variable (p : Permits) (name : String)

theorem kept_comeBack : (p.comeBack name).kept = p.kept.erase name := by
  unfold comeBack
  split
  · rfl
  · exact (List.erase_of_not_mem ‹_›).symm

theorem issued_comeBack : (p.comeBack name).issued = p.issued := by
  unfold comeBack
  split
  · have shorter := List.length_erase_of_mem ‹name ∈ p.kept›
    have some := List.length_pos_of_mem ‹name ∈ p.kept›
    simp only [issued]
    omega
  · rfl

theorem issued_give : (p.give name).issued = p.issued + 1 := by
  have same := p.issued_comeBack name
  simp only [issued, give, List.length_cons] at same ⊢
  omega

theorem issued_hand (millis : Option Nat) : (p.hand name millis).issued = p.issued := by
  unfold hand
  split
  · have shorter := List.length_erase_of_mem ‹name ∈ p.kept›
    have some := List.length_pos_of_mem ‹name ∈ p.kept›
    simp only [issued, List.length_append, List.length_singleton]
    omega
  · rfl

end Permits

variable {m m' : Admission} {p : Permits} {a : Action} {name : String}

/-! ### Accounts and slots -/

/-- The account agrees with who holds slots: a permit that was handed to a task is held by it, or
the task has ended, or it was aborted. -/
structure Accounted (p : Permits) (m : Admission) : Prop where
  now : p.now = m.now
  bare : p.kept = m.bare
  tasks : p.handed.Perm ((m.running ++ m.finished ++ m.aborted).map (·.ends))
  ended : ∀ t ∈ m.finished, t.hasEnded m.now = true

namespace Accounted

theorem start (capacity drainMillis : Nat) : Accounted .none (start capacity drainMillis) :=
  ⟨rfl, rfl, .nil, fun _ finished => absurd finished List.not_mem_nil⟩

/-- **Held slots.** The slots that are held are the permits that have not come back. -/
theorem held_add (accounted : Accounted p m) :
    m.held + p.back + m.finished.length + m.aborted.length = p.issued := by
  have tasks := accounted.tasks.length_eq
  simp only [List.length_map, List.length_append] at tasks
  rw [Permits.issued, accounted.bare, held]
  omega

/-- Agreement is about the clock, the names and the tasks. -/
theorem congr (accounted : Accounted p m) (now : m'.now = m.now) (bare : m'.bare = m.bare)
    (running : m'.running = m.running) (finished : m'.finished = m.finished)
    (aborted : m'.aborted = m.aborted) : Accounted p m' := by
  obtain ⟨now', bare', tasks, ended⟩ := accounted
  refine ⟨now'.trans now.symm, bare'.trans bare.symm, ?_, ?_⟩
  · rwa [running, finished, aborted]
  · rwa [finished, now]

theorem endTasks (accounted : Accounted p m) : Accounted p m.endTasks where
  now := accounted.now
  bare := accounted.bare
  tasks := by
    refine accounted.tasks.trans (List.Perm.map _ (List.Perm.append_right m.aborted ?_))
    -- those that are due go from one list to the other
    let due := m.running.filter (·.hasEnded m.now)
    let others := m.running.filter fun t => !t.hasEnded m.now
    have sorted : due ++ others ~ m.running := List.filter_append_perm _ m.running
    calc m.running ++ m.finished
      _ ~ due ++ others ++ m.finished := sorted.symm.append_right _
      _ ~ others ++ due ++ m.finished := List.perm_append_comm.append_right _
      _ = others ++ (due ++ m.finished) := List.append_assoc _ _ _
      _ ~ others ++ (m.finished ++ due) := List.perm_append_comm.append_left _
  ended t finished := by
    rcases List.mem_append.mp finished with before | due
    · exact accounted.ended t before
    · exact (List.mem_filter.mp due).2

theorem abort (accounted : Accounted p m) : Accounted p m.abort where
  now := accounted.now
  bare := accounted.bare
  tasks := by
    refine accounted.tasks.trans (List.Perm.map _ ?_)
    calc m.running ++ m.finished ++ m.aborted
      _ = m.running ++ (m.finished ++ m.aborted) := List.append_assoc _ _ _
      _ ~ m.finished ++ m.aborted ++ m.running := List.perm_append_comm
      _ = m.finished ++ (m.aborted ++ m.running) := List.append_assoc _ _ _
  ended := accounted.ended

theorem endDrain (accounted : Accounted p m) : Accounted p m.endDrain := by
  have returned : Accounted p m.returnFromDrain := accounted.congr rfl rfl rfl rfl rfl
  rcases endDrain_cases m with ⟨same, _⟩ | ⟨_, _, ended⟩ | ⟨_, _, ended⟩
  · rwa [same]
  · rwa [ended]
  · rw [ended]
    exact returned.abort

theorem settle (accounted : Accounted p m) : Accounted p m.settle := accounted.endTasks.endDrain

theorem letGo (accounted : Accounted p m) (name : String) :
    Accounted (p.comeBack name) (m.letGo name) := by
  have bare : (p.comeBack name).kept = (m.letGo name).bare := by
    rw [Permits.kept_comeBack, accounted.bare]
    rfl
  have same : (p.comeBack name).now = p.now ∧ (p.comeBack name).handed = p.handed := by
    unfold Permits.comeBack
    split <;> exact ⟨rfl, rfl⟩
  exact ⟨same.1.trans accounted.now, bare, same.2 ▸ accounted.tasks, accounted.ended⟩

theorem letIn (accounted : Accounted p m) (slots : Slots) (name : String) (transport : Transport) :
    Accounted (p.give name) (m.letIn slots name transport) := by
  have entered : Accounted p { m with slots, ledger := m.ledger.record (.accepted transport) } :=
    accounted.congr rfl rfl rfl rfl rfl
  obtain ⟨now, bare, tasks, ended⟩ := entered.letGo name
  exact ⟨now, congrArg (name :: ·) bare, tasks, ended⟩

theorem ends_yieldName (name : String) (t : Task) : (t.yieldName name).ends = t.ends := by
  unfold Task.yieldName
  split <;> rfl

theorem handOver (accounted : Accounted p m) (held : name ∈ m.bare) (millis : Option Nat)
    (ending : Option Ledger.Ending) :
    Accounted (p.hand name millis) (m.handOver name millis ending) := by
  obtain ⟨now, bare, tasks, ended⟩ := accounted
  rw [← bare] at held
  rw [Permits.hand, if_pos held, now]
  refine ⟨rfl, congrArg (·.erase name) bare, ?_, ended⟩
  have same : (m.running.map (·.yieldName name)).map (·.ends) = m.running.map (·.ends) := by
    rw [List.map_map]
    exact List.map_congr_left fun t _ => ends_yieldName name t
  -- the new task stands behind those that were running before, and ahead of those that are not
  let ends := millis.map (m.now + ·)
  let rest := (m.finished ++ m.aborted).map (·.ends)
  calc p.handed ++ [ends]
    _ ~ (m.running ++ m.finished ++ m.aborted).map (·.ends) ++ [ends] := tasks.append_right _
    _ = m.running.map (·.ends) ++ (rest ++ [ends]) := by simp [rest]
    _ ~ m.running.map (·.ends) ++ ([ends] ++ rest) := List.perm_append_comm.append_left _
    _ = ((m.handOver name millis ending).running ++ m.finished ++ m.aborted).map (·.ends) := by
      simp [Admission.handOver, same, rest, ends]

theorem tick (accounted : Accounted p m) :
    Accounted { p with now := p.now + 1 } { m with now := m.now + 1 } where
  now := congrArg (· + 1) accounted.now
  bare := accounted.bare
  tasks := accounted.tasks
  ended t finished := by
    have before := accounted.ended t finished
    unfold Task.hasEnded at before ⊢
    split at before
    · simp only [decide_eq_true_eq] at before ⊢
      exact Nat.le_succ_of_le before
    · cases before

end Accounted

/-! ### Histories -/

def Answer.isYes : Answer → Bool
  | (_, .ok ()) => true
  | (_, .error _) => false

/-- Whether an action is granted a permit. -/
def grants (m : Admission) (a : Action) : Bool := (m.answersTo a).any Answer.isYes

/-- The account after a history, kept from its actions and their answers. -/
def permits (m : Admission) (p : Permits) : List Action → Permits
  | [] => p
  | a :: history => (m.act a).permits (p.follow (m.grants a) a) history

/-- Whoever is answered yes is given a permit, and nobody else is. -/
theorem issued_follow (m : Admission) (p : Permits) (a : Action) :
    (p.follow (m.grants a) a).issued = p.issued + (m.answersTo a).countP Answer.isYes := by
  cases a with
  | enter name transport =>
    simp only [grants, answersTo, Permits.follow, List.any_cons, List.any_nil, Bool.or_false,
      List.countP_singleton]
    split
    · exact p.issued_give name
    · rfl
  | release name => exact p.issued_comeBack name
  | spawn name millis ending => exact p.issued_hand name millis
  | shutdown | takeSignal | tick => rfl

theorem issued_permits (m : Admission) (p : Permits) (history : List Action) :
    (m.permits p history).issued = p.issued + (m.answers history).countP Answer.isYes := by
  induction history generalizing m p with
  | nil => rfl
  | cons a history ih =>
    rw [permits, ih, issued_follow, answers, List.countP_append, Nat.add_assoc]

/-- **An action** keeps the permits accounted for. -/
theorem Accounted.act (accounted : Accounted p m) (a : Action) :
    Accounted (p.follow (m.grants a) a) (m.act a) := by
  cases a with
  | enter name transport =>
    simp only [grants, answersTo, Permits.follow, List.any_cons, List.any_nil, Bool.or_false,
      Admission.act, enter]
    split
    · exact accounted
    · split
      · exact accounted.congr rfl rfl rfl rfl rfl
      · exact accounted.letIn _ name transport
  | release name =>
    rw [Permits.follow, Admission.act, release]
    split
    · exact (accounted.letGo name).settle
    · have gone : name ∉ p.kept := accounted.bare ▸ ‹name ∉ m.bare›
      rwa [Permits.comeBack, if_neg gone]
  | spawn name millis ending =>
    rw [Permits.follow, Admission.act, spawn]
    split
    · exact (accounted.handOver ‹_› millis ending).settle
    · have gone : name ∉ p.kept := accounted.bare ▸ ‹name ∉ m.bare›
      rwa [Permits.hand, if_neg gone]
  | shutdown =>
    rw [Permits.follow, Admission.act, beginShutdown]
    split
    · exact accounted
    · have begun : Accounted p m.startDrain := accounted.congr rfl rfl rfl rfl rfl
      exact begun.settle
  | takeSignal =>
    rw [Permits.follow, Admission.act, takeSignal]
    split
    · exact accounted.congr rfl rfl rfl rfl rfl
    · exact accounted
  | tick => exact accounted.tick.settle

theorem Accounted.actAll (accounted : Accounted p m) (history : List Action) :
    Accounted (m.permits p history) (m.actAll history) := by
  induction history generalizing m p with
  | nil => exact accounted
  | cons a history ih => exact ih (accounted.act a)

/-! ### The limit -/

/-- **Who is admitted.** At every moment of every history the slots that are held are the permits
that were given out by an answer and have not come back by name, with a task that ended, or with one
that was aborted; running tasks have not ended, finished ones have, and none was aborted unless a
drain is over. Unless a drain is in progress, the slots that are held and those that are available
are all slots. The next session is admitted exactly if shutting down has not begun and fewer than
all slots are held; it is told that the limit is reached exactly if it has not begun and all are
held, and that the doors are closed exactly if it has begun; and if it is refused, nothing but the
ledger changes. The ledger counts who was admitted, by transport, and who met the limit. -/
theorem admits_within_capacity (capacity drainMillis : Nat) (history : List Action) :
    let m := (start capacity drainMillis).actAll history
    let answers := (start capacity drainMillis).answers history
    let p := (start capacity drainMillis).permits .none history
    (m.held + p.back + m.finished.length + m.aborted.length = answers.countP Answer.isYes
      ∧ Accounted p m ∧ (∀ t ∈ m.running, t.hasEnded m.now = false)
      ∧ (m.stage ≠ .closed → m.aborted = []))
    ∧ (m.isDraining = false → m.held + m.available = capacity ∧ m.active = m.held)
    ∧ (∀ name transport,
      ((m.enter name transport).1 = .ok () ↔ .shutdown ∉ history ∧ m.held < capacity)
      ∧ (∀ current maximum, (m.enter name transport).1 = .error (.limitReached current maximum)
        ↔ (.shutdown ∉ history ∧ m.held = capacity) ∧ current = capacity ∧ maximum = capacity)
      ∧ ((m.enter name transport).1 = .error .shuttingDown ↔ .shutdown ∈ history)
      ∧ ((m.enter name transport).1 ≠ .ok () →
        (m.enter name transport).2 = { m with ledger := (m.enter name transport).2.ledger }))
    ∧ (∀ transport, m.ledger.accepted transport
      = .ofNat (answers.countP (Answer.admits transport)))
    ∧ m.ledger.rejected = .ofNat (answers.countP Answer.isLimit) := by
  intro m answers p
  have order : InOrder m := (inOrder_start capacity drainMillis).actAll history
  have whole : m.capacity = capacity := (terms_actAll _ history).1
  have closing : m.isShuttingDown = true ↔ .shutdown ∈ history := by
    rw [isShuttingDown_actAll]
    exact or_iff_right Bool.false_ne_true
  have counted : m.counts = countsAfter (fun _ => 0, 0) answers := by
    refine ((inOrder_start capacity drainMillis).counts_actAll history).trans ?_
    refine congrArg (countsAfter · answers) (Prod.ext (funext fun transport => ?_) rfl)
    cases transport <;> rfl
  have accounted : Accounted p m := (Accounted.start capacity drainMillis).actAll history
  have issued : p.issued = answers.countP Answer.isYes :=
    (issued_permits _ _ history).trans (Nat.zero_add _)
  refine ⟨⟨accounted.held_add.trans issued, accounted, order.running, order.unaborted⟩,
    fun waitless => ?_, fun name transport => ?_, fun transport => ?_, ?_⟩
  · have held := order.free_add_held waitless
    rw [whole, Nat.add_comm] at held
    exact ⟨held, order.active_eq_held waitless⟩
  · rw [← closing]
    rcases order.enter_cases name transport with
      ⟨begun, refused⟩ | ⟨isOpen, full, refused⟩ | ⟨isOpen, room, admitted, _⟩
    · simp [refused, begun]
    · simp [refused, isOpen, full, whole, eq_comm]
    · rw [whole] at room
      simp [admitted, isOpen, room, Nat.ne_of_lt room]
  · have counted := congrFun (congrArg Prod.fst counted) transport
    simpa only [counts, countsAfter, UInt64.zero_add] using counted
  · have counted := congrArg Prod.snd counted
    simpa only [counts, countsAfter, UInt64.zero_add] using counted

end Intercept.Admission
