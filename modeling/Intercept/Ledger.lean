import Intercept.Failure
import Intercept.Proxy.Phase

/-!
# The ledger

What happened to sessions is counted: how many were accepted, are active, were established,
completed or failed, how much they moved, how many were rejected, how many datagrams were dropped,
and how often each kind of failure arose. Counters have 64 bits and wrap around. An entry says what
happened; the ledger after a list of entries is the ledger after one entry after the other.

## Main statements

* `Counts.recordAll`: a counter says how many entries are of its sort.
* `balanced_recordAll`: whoever was accepted is active, has completed or has failed.
-/

namespace Intercept

/-- The counters. -/
structure Ledger where
  tcpAccepted : UInt64
  udpFlows : UInt64
  active : UInt64
  established : UInt64
  completed : UInt64
  failed : UInt64
  rejected : UInt64
  dropped : UInt64
  bytesUp : UInt64
  bytesDown : UInt64
  /-- How often each kind of failure arose. -/
  failures : Failure.Kind → UInt64

namespace Ledger

def empty : Ledger := ⟨0, 0, 0, 0, 0, 0, 0, 0, 0, 0, fun _ => 0⟩

/-- Something that happened. -/
inductive Entry where
  | accepted (transport : Transport)
  | established
  | completed (up down : UInt64)
  | failed (kind : Failure.Kind)
  /-- A failure outside of any session. -/
  | error (kind : Failure.Kind)
  | rejected
  | dropped
deriving DecidableEq

def countFailure (l : Ledger) (kind : Failure.Kind) : Ledger :=
  { l with failures := fun k => if k = kind then l.failures k + 1 else l.failures k }

def record (l : Ledger) : Entry → Ledger
  | .accepted .tcp => { l with tcpAccepted := l.tcpAccepted + 1, active := l.active + 1 }
  | .accepted .udp => { l with udpFlows := l.udpFlows + 1, active := l.active + 1 }
  | .established => { l with established := l.established + 1 }
  | .completed up down => { l with
      active := l.active - 1
      completed := l.completed + 1
      bytesUp := l.bytesUp + up
      bytesDown := l.bytesDown + down }
  | .failed kind =>
    { l with active := l.active - 1, failed := l.failed + 1 }.countFailure kind
  | .error kind => l.countFailure kind
  | .rejected => { l with rejected := l.rejected + 1 }
  | .dropped => { l with dropped := l.dropped + 1 }

def recordAll (l : Ledger) (entries : List Entry) : Ledger := entries.foldl record l

/-- How a session ended: what it moved, or how it failed. -/
abbrev Result := Except Failure (UInt64 × UInt64)

/-- The entries of a session that ended in the given phase with the given result. -/
def outcome (phase : Proxy.Phase) (result : Result) : List Entry :=
  (if phase = .established then [.established] else []) ++ match result with
    | .ok (up, down) => [.completed up down]
    | .error f => [.failed f.kind]

/-- How a session came to its end. -/
structure Ending where
  phase : Proxy.Phase
  result : Result

def Ending.entries (e : Ending) : List Entry := outcome e.phase e.result

@[simp]
theorem recordAll_nil (l : Ledger) : l.recordAll [] = l := rfl

@[simp]
theorem recordAll_cons (l : Ledger) (e : Entry) (es : List Entry) :
    l.recordAll (e :: es) = (l.record e).recordAll es := rfl

theorem recordAll_append (l : Ledger) (es fs : List Entry) :
    l.recordAll (es ++ fs) = (l.recordAll es).recordAll fs := by
  simp [recordAll]

/-! ### Counters -/

/-- How many sessions of a transport were accepted. -/
def accepted (l : Ledger) : Transport → UInt64
  | .tcp => l.tcpAccepted
  | .udp => l.udpFlows

def Entry.isAccepted (transport : Transport) : Entry → Bool
  | .accepted t => t = transport
  | _ => false

def Entry.isCompleted : Entry → Bool
  | .completed _ _ => true
  | _ => false

def Entry.isFailed : Entry → Bool
  | .failed _ => true
  | _ => false

def Entry.isRejected : Entry → Bool
  | .rejected => true
  | _ => false

/-- The counter says how many entries are of a sort. -/
def Counts (counter : Ledger → UInt64) (sort : Entry → Bool) : Prop :=
  ∀ l e, counter (record l e) = counter l + if sort e then 1 else 0

theorem counts_accepted (transport : Transport) :
    Counts (·.accepted transport) (Entry.isAccepted transport) := by
  intro l e
  cases e with
  | accepted t => cases t <;> cases transport <;> simp [record, accepted, Entry.isAccepted]
  | _ => cases transport <;> simp [record, accepted, Entry.isAccepted, countFailure]

theorem counts_completed : Counts (·.completed) Entry.isCompleted := by
  intro l e
  cases e with
  | accepted t => cases t <;> simp [record, Entry.isCompleted]
  | _ => simp [record, Entry.isCompleted, countFailure]

theorem counts_failed : Counts (·.failed) Entry.isFailed := by
  intro l e
  cases e with
  | accepted t => cases t <;> simp [record, Entry.isFailed]
  | _ => simp [record, Entry.isFailed, countFailure]

theorem counts_rejected : Counts (·.rejected) Entry.isRejected := by
  intro l e
  cases e with
  | accepted t => cases t <;> simp [record, Entry.isRejected]
  | _ => simp [record, Entry.isRejected, countFailure]

theorem Counts.recordAll {counter : Ledger → UInt64} {sort : Entry → Bool}
    (counts : Counts counter sort) (l : Ledger) (es : List Entry) :
    counter (l.recordAll es) = counter l + .ofNat (es.countP sort) := by
  induction es generalizing l with
  | nil => simp
  | cons e es ih =>
    rw [recordAll_cons, ih, counts, List.countP_cons, UInt64.ofNat_add, UInt64.add_assoc]
    congr 1
    split <;> simp [UInt64.add_comm]

/-- Whoever was accepted is active, has completed or has failed. -/
def Balanced (l : Ledger) : Prop := l.active + (l.completed + l.failed) = l.tcpAccepted + l.udpFlows

theorem Balanced.record {l : Ledger} (balanced : Balanced l) (e : Entry) :
    Balanced (l.record e) := by
  unfold Balanced at balanced ⊢
  cases e with
  | accepted t => cases t <;> grind [Ledger.record]
  | completed | failed => grind [Ledger.record, countFailure]
  | established | error | rejected | dropped => exact balanced

theorem balanced_recordAll (es : List Entry) : Balanced (empty.recordAll es) := by
  suffices ∀ l, Balanced l → Balanced (l.recordAll es) from this empty rfl
  induction es with
  | nil => exact fun _ balanced => balanced
  | cons e es ih => exact fun l balanced => ih (l.record e) (balanced.record e)

/-- The end of a session is entered once. -/
theorem countP_entries (ending : Ending) :
    (∀ transport, ending.entries.countP (Entry.isAccepted transport) = 0)
    ∧ ending.entries.countP Entry.isRejected = 0
    ∧ ending.entries.countP Entry.isCompleted + ending.entries.countP Entry.isFailed = 1 := by
  obtain ⟨phase, result⟩ := ending
  cases result <;> by_cases established : phase = .established <;>
    simp [Ending.entries, outcome, established, Entry.isAccepted, Entry.isRejected,
      Entry.isCompleted, Entry.isFailed]

end Ledger

end Intercept
