import Intercept.Proofs.Ledger.Totals
import Mathlib.Data.List.FinRange
import Mathlib.Data.List.Perm.Basic
import Mathlib.Logic.Function.Basic

/-!
# Sessions that record at the same time

Nothing is locked while an entry is made: every counter is a cell of its own, an entry updates several
cells one after the other, and the updates of other sessions may come between any two of them. Every
update adds to one cell or takes away from it, so the order of updates is of no consequence, and the
ledger after any interleaving is the ledger after one entry after the other.

## Main statements

* `updateAll_updates`: the updates of an entry, one after the other, record it.
* `updateAll_perm`: the order of updates is of no consequence.
* `updateAll_of_interleaving`: sessions that record at the same time record what each of them does.
* `snapshot_of_interleaving`: what a snapshot says after any interleaving.
-/

namespace Intercept

/-! ### Interleavings -/

/-- Whether a trace interleaves threads: every step is the next one of some thread, and in the end no
thread has a step left. -/
inductive Interleaving {α : Type} : List (List α) → List α → Prop where
  | done {threads : List (List α)} : (∀ thread ∈ threads, thread = []) → Interleaving threads []
  | step {threads : List (List α)} {a : α} {rest trace : List α} (i : Nat) :
      threads[i]? = some (a :: rest) → Interleaving (threads.set i rest) trace →
      Interleaving threads (a :: trace)

theorem flatten_perm_of_step {α : Type} {threads : List (List α)} {a : α} {rest : List α} {i : Nat}
    (next : threads[i]? = some (a :: rest)) :
    threads.flatten.Perm (a :: (threads.set i rest).flatten) := by
  induction threads generalizing i with
  | nil => cases next
  | cons thread threads ih =>
    cases i with
    | zero =>
      obtain rfl : thread = a :: rest := Option.some.inj next
      exact .refl _
    | succ i =>
      have later := ih (i := i) next
      rw [List.set_cons_succ, List.flatten_cons, List.flatten_cons]
      exact (later.append_left thread).trans List.perm_middle

/-- An interleaving has the steps of all its threads, and no others. -/
theorem Interleaving.perm {α : Type} {threads : List (List α)} {trace : List α}
    (interleaved : Interleaving threads trace) : trace.Perm threads.flatten := by
  induction interleaved with
  | done none => exact .of_eq (List.flatten_eq_nil_iff.mpr none).symm
  | step i next _ ih => exact (ih.cons _).trans (flatten_perm_of_step next).symm

namespace Ledger

variable {l m : Ledger} {c d : Counter}

/-! ### Cells -/

/-- The places of the counters of the kinds. -/
abbrev Slot := Fin Failure.Kind.all.length

def Slot.kind (i : Slot) : Failure.Kind := Failure.Kind.all.get i

def slot (kind : Failure.Kind) : Slot :=
  ⟨kind.index, (List.getElem?_eq_some_iff.mp kind.getElem?_all_index).1⟩

@[simp]
theorem kind_slot (kind : Failure.Kind) : (slot kind).kind = kind :=
  (List.getElem?_eq_some_iff.mp kind.getElem?_all_index).2

@[simp]
theorem slot_kind : ∀ i : Slot, slot i.kind = i := by decide

theorem kind_eq_iff {i : Slot} {kind : Failure.Kind} : i.kind = kind ↔ i = slot kind :=
  ⟨fun here => here ▸ (slot_kind i).symm, fun here => here ▸ kind_slot kind⟩

/-- A counter that is updated on its own. -/
inductive Counter where
  | tcpAccepted
  | udpFlows
  | active
  | established
  | completed
  | failed
  | rejected
  | dropped
  | bytesUp
  | bytesDown
  | failures (i : Slot)
deriving DecidableEq

/-- All counters, in the order in which they are reset. -/
def Counter.all : List Counter :=
  [.tcpAccepted, .udpFlows, .active, .established, .completed, .failed, .rejected, .dropped,
    .bytesUp, .bytesDown] ++ (List.finRange _).map .failures

theorem Counter.mem_all (c : Counter) : c ∈ all := by
  cases c with
  | failures i => exact List.mem_append_right _ (List.mem_map_of_mem (List.mem_finRange i))
  | _ => simp [all]

/-- What a counter of the ledger says. -/
def get (l : Ledger) : Counter → UInt64
  | .tcpAccepted => l.tcpAccepted
  | .udpFlows => l.udpFlows
  | .active => l.active
  | .established => l.established
  | .completed => l.completed
  | .failed => l.failed
  | .rejected => l.rejected
  | .dropped => l.dropped
  | .bytesUp => l.bytesUp
  | .bytesDown => l.bytesDown
  | .failures i => l.failures i.kind

/-- The ledger whose counters say what is given. -/
def ofGet (value : Counter → UInt64) : Ledger where
  tcpAccepted := value .tcpAccepted
  udpFlows := value .udpFlows
  active := value .active
  established := value .established
  completed := value .completed
  failed := value .failed
  rejected := value .rejected
  dropped := value .dropped
  bytesUp := value .bytesUp
  bytesDown := value .bytesDown
  failures kind := value (.failures (slot kind))

@[simp]
theorem get_ofGet (value : Counter → UInt64) (c : Counter) : (ofGet value).get c = value c := by
  cases c with
  | failures i => exact congrArg value (congrArg Counter.failures (slot_kind i))
  | _ => rfl

theorem ofGet_get (l : Ledger) : ofGet l.get = l := by
  simp [ofGet, get]

/-- A ledger is what its counters say. -/
theorem ext_get (same : ∀ c, l.get c = m.get c) : l = m := by
  rw [← ofGet_get l, ← ofGet_get m, funext same]

/-- The ledger with one counter set. -/
def store (l : Ledger) (c : Counter) (n : UInt64) : Ledger := ofGet (Function.update l.get c n)

theorem get_store (l : Ledger) (c d : Counter) (n : UInt64) :
    (l.store c n).get d = if d = c then n else l.get d := by
  rw [store, get_ofGet, Function.update_apply]

/-! ### Resetting -/

/-- The ledger with every counter set to nothing, one after the other. -/
def reset (l : Ledger) : Ledger := Counter.all.foldl (·.store · 0) l

theorem get_foldl_store (l : Ledger) (cs : List Counter) (d : Counter) :
    (cs.foldl (·.store · 0) l).get d = if d ∈ cs then 0 else l.get d := by
  induction cs generalizing l with
  | nil => rfl
  | cons c cs ih =>
    rw [List.foldl_cons, ih, get_store]
    by_cases here : d = c <;> by_cases later : d ∈ cs <;> simp [here, later]

/-- A ledger that has been reset is as good as new. -/
theorem reset_eq_empty (l : Ledger) : l.reset = empty := by
  refine ext_get fun c => ?_
  rw [reset, get_foldl_store, if_pos c.mem_all]
  cases c <;> rfl

/-! ### Updates -/

/-- A counter that is added to, or taken away from, in one step. -/
inductive Update where
  | raise (c : Counter) (amount : UInt64)
  | lower (c : Counter) (amount : UInt64)
deriving DecidableEq

namespace Update

def counter : Update → Counter
  | raise c _ => c
  | lower c _ => c

/-- What the counter says after the update. -/
def after : Update → UInt64 → UInt64
  | raise _ amount, n => n + amount
  | lower _ amount, n => n - amount

theorem after_comm (u v : Update) (n : UInt64) : u.after (v.after n) = v.after (u.after n) := by
  cases u <;> cases v <;> simp only [after] <;> grind

end Update

def update (l : Ledger) (u : Update) : Ledger := l.store u.counter (u.after (l.get u.counter))

def updateAll (l : Ledger) (updates : List Update) : Ledger := updates.foldl update l

theorem get_update (l : Ledger) (u : Update) (c : Counter) :
    (l.update u).get c = if c = u.counter then u.after (l.get c) else l.get c := by
  rw [update, get_store]
  split
  · rename_i here
    rw [here]
  · rfl

/-- **Two updates** can be made in either order, also those of one counter. -/
theorem update_right_comm (l : Ledger) (u v : Update) :
    (l.update u).update v = (l.update v).update u := by
  refine ext_get fun c => ?_
  simp only [get_update]
  by_cases first : c = u.counter
  · by_cases second : c = v.counter
    · rw [if_pos second, if_pos first, if_pos first, if_pos second, v.after_comm]
    · rw [if_neg second, if_pos first, if_pos first, if_neg second]
  · rw [if_neg first, if_neg first]

/-- **The order of updates** is of no consequence. -/
theorem updateAll_perm {updates reordered : List Update} (perm : updates.Perm reordered)
    (l : Ledger) : l.updateAll updates = l.updateAll reordered := by
  have commutes : RightCommutative update := ⟨update_right_comm⟩
  exact perm.foldl_eq l

/-- The updates of an entry, in order. -/
def Entry.updates : Entry → List Update
  | .accepted .tcp => [.raise .tcpAccepted 1, .raise .active 1]
  | .accepted .udp => [.raise .udpFlows 1, .raise .active 1]
  | .established => [.raise .established 1]
  | .completed up down =>
    [.lower .active 1, .raise .completed 1, .raise .bytesUp up, .raise .bytesDown down]
  | .failed kind => [.lower .active 1, .raise .failed 1, .raise (.failures (slot kind)) 1]
  | .error kind => [.raise (.failures (slot kind)) 1]
  | .rejected => [.raise .rejected 1]
  | .dropped => [.raise .dropped 1]

/-- An update of a kind's counter counts one more failure of that kind. -/
theorem update_failures (l : Ledger) (kind : Failure.Kind) :
    l.update (.raise (.failures (slot kind)) 1) = l.countFailure kind := by
  refine ext_get fun c => ?_
  rw [get_update]
  cases c with
  | failures i =>
    simp only [Update.counter, Update.after, get, countFailure, kind_eq_iff,
      Counter.failures.injEq]
  | _ => rfl

/-- **The updates of an entry**, one after the other, record it. -/
theorem updateAll_updates (l : Ledger) (e : Entry) : l.updateAll e.updates = l.record e := by
  cases e with
  | error kind => exact update_failures l kind
  | failed kind =>
    -- the failure is counted last, on the ledger in which the session is not active any more
    show ((l.update _).update _).update _ = _
    rw [update_failures, record]
    congr 1
    refine ext_get fun c => ?_
    simp only [get_update, Update.counter, Update.after]
    cases c <;> simp [get]
  | accepted t =>
    cases t <;>
    · refine ext_get fun c => ?_
      simp only [Entry.updates, updateAll, List.foldl_cons, List.foldl_nil, get_update,
        Update.counter, Update.after]
      cases c <;> simp [record, get]
  | _ =>
    refine ext_get fun c => ?_
    simp only [Entry.updates, updateAll, List.foldl_cons, List.foldl_nil, get_update,
      Update.counter, Update.after]
    cases c <;> simp [record, get]

theorem updateAll_flatMap (l : Ledger) (es : List Entry) :
    l.updateAll (es.flatMap Entry.updates) = l.recordAll es := by
  induction es generalizing l with
  | nil => rfl
  | cons e es ih =>
    rw [List.flatMap_cons, updateAll, List.foldl_append]
    show (l.updateAll e.updates).updateAll _ = _
    rw [updateAll_updates, ih, recordAll_cons]

/-! ### Sessions -/

/-- The updates of an operation, in order. -/
def Operation.updates (o : Operation) : List Update := o.entries.flatMap Entry.updates

/-- **Recording at the same time.** Whatever the order in which sessions' updates come, the ledger is
the one after each operation at once, in any order. -/
theorem updateAll_of_interleaving {sessions : List (List Operation)} {operations : List Operation}
    {trace : List Update} (shared : sessions.flatten.Perm operations)
    (interleaved : Interleaving (sessions.map (·.flatMap Operation.updates)) trace) (l : Ledger) :
    l.updateAll trace = l.recordAll (entriesOf operations) := by
  -- no session's order is needed: what matters is which updates there are
  have same : trace.Perm ((entriesOf operations).flatMap Entry.updates) := by
    calc
      trace.Perm (sessions.map (·.flatMap Operation.updates)).flatten := interleaved.perm
      _ = sessions.flatten.flatMap Operation.updates := by
        rw [← List.flatMap_def, ← List.flatMap_id, List.flatMap_assoc]
        rfl
      List.Perm _ (operations.flatMap Operation.updates) := shared.flatMap_right _
      _ = (entriesOf operations).flatMap Entry.updates := (List.flatMap_assoc ..).symm
  rw [updateAll_perm same, updateAll_flatMap]

/-- **Statistics say what happened**, not in which order. However the updates of sessions come among
each other, on a ledger that is new or has been reset, a snapshot is that of the operations done one
after the other, in any order. Whoever was accepted is active, has completed or has failed; the
failures of all kinds are those that ended sessions and those outside of any; the octets are those
of completed sessions; and the failures that are named are those of the kinds that arose, each once
and with its own count. -/
theorem snapshot_of_interleaving {sessions : List (List Operation)} {operations : List Operation}
    {trace : List Update} {begun : Ledger}
    (blank : begun = empty ∨ ∃ before : Ledger, begun = before.reset)
    (shared : sessions.flatten.Perm operations)
    (interleaved : Interleaving (sessions.map (·.flatMap Operation.updates)) trace)
    (time : UInt64) :
    let l := begun.updateAll trace
    let s := Snapshot.ofLedger l time
    let entries := entriesOf operations
    s = .ofLedger (empty.recordAll entries) time
      ∧ s.active = s.tcpAccepted + s.udpFlows - s.completed - s.failed
      ∧ l.failureTotal = s.failed + .ofNat (operations.countP Operation.isError)
      ∧ s.bytesUp = (entries.map Entry.up).sum
      ∧ s.bytesDown = (entries.map Entry.down).sum
      ∧ (∀ name count, (name, count) ∈ s.failures ↔
          ∃ kind : Failure.Kind, kind.name = name ∧ l.failures kind = count ∧ count ≠ 0)
      ∧ (s.failures.map (·.1)).Nodup := by
  intro l s entries
  have fresh : begun = empty := by
    rcases blank with rfl | ⟨before, rfl⟩
    · rfl
    · exact reset_eq_empty before
  have whole : l = empty.recordAll entries := by
    rw [← fresh]
    exact updateAll_of_interleaving shared interleaved begun
  have balanced : l.Balanced := whole ▸ balanced_recordAll entries
  refine ⟨by rw [← whole], ?_, ?_, ?_, ?_, fun _ _ => Snapshot.mem_failures_iff l time,
    Snapshot.nodup_failures l time⟩
  · show l.active = l.tcpAccepted + l.udpFlows - l.completed - l.failed
    unfold Balanced at balanced
    grind
  · show l.failureTotal = l.failed + _
    rw [whole, failureTotal_recordAll, countP_isError_entriesOf]
  · show l.bytesUp = _
    rw [whole, adds_bytesUp.recordAll]
    exact UInt64.zero_add _
  · show l.bytesDown = _
    rw [whole, adds_bytesDown.recordAll]
    exact UInt64.zero_add _

/-- A session comes to its end while another one fails, update by update in turns, on a ledger that
has been reset. -/
theorem snapshot_of_two_sessions :
    let ends : List Operation := [.entry (.accepted .tcp), .ending ⟨.established, .ok (3, 5)⟩]
    let fails : List Operation := [.entry (.accepted .udp),
      .ending ⟨.failed, .error (.io (.system 5))⟩, .entry (.error .listener)]
    let trace : List Update := [
      .raise .tcpAccepted 1, .raise .udpFlows 1, .raise .active 1, .raise .active 1,
      .raise .established 1, .lower .active 1, .lower .active 1, .raise .failed 1,
      .raise .completed 1, .raise (.failures (slot .io)) 1, .raise .bytesUp 3,
      .raise (.failures (slot .listener)) 1, .raise .bytesDown 5]
    let l := empty.reset.updateAll trace
    let s := Snapshot.ofLedger l 0
    [ends, fails].flatten.Perm (fails ++ ends)
      ∧ Interleaving ([ends, fails].map (·.flatMap Operation.updates)) trace
      ∧ s = .ofLedger (empty.recordAll (entriesOf (fails ++ ends))) 0
      ∧ s.active = s.tcpAccepted + s.udpFlows - s.completed - s.failed
      ∧ l.failureTotal = s.failed + 1 ∧ s.bytesUp = 3 ∧ s.bytesDown = 5 := by
  intro ends fails trace l s
  have shared : [ends, fails].flatten.Perm (fails ++ ends) := List.perm_append_comm
  have interleaved : Interleaving ([ends, fails].map (·.flatMap Operation.updates)) trace :=
    .step 0 rfl <| .step 1 rfl <| .step 0 rfl <| .step 1 rfl <| .step 0 rfl <| .step 0 rfl <|
    .step 1 rfl <| .step 1 rfl <| .step 0 rfl <| .step 1 rfl <| .step 0 rfl <| .step 1 rfl <|
    .step 0 rfl <| .done (by simp)
  have errors : (fails ++ ends).countP Operation.isError = 1 := by decide
  have ups : ((entriesOf (fails ++ ends)).map Entry.up).sum = 3 := by decide
  have downs : ((entriesOf (fails ++ ends)).map Entry.down).sum = 5 := by decide
  obtain ⟨same, balanced, total, up, down, _⟩ :=
    snapshot_of_interleaving (.inr ⟨empty, rfl⟩) shared interleaved 0
  rw [errors] at total
  rw [ups] at up
  rw [downs] at down
  exact ⟨shared, interleaved, same, balanced, total, up, down⟩

end Ledger

end Intercept
