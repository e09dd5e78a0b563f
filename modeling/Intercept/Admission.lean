import Intercept.Ledger
import Intercept.Slots

/-!
# Admission

There is a fixed number of slots. A session takes a slot when it is admitted and gives it back when
it ends. A slot is held either bare, under a name, or by a guarded task, which gives it back when
the task ends. Shutting down closes admission for good and drains: it asks for all slots and waits
until they have come back, and if they have not after a timeout it aborts every guarded task. A
drain asks for at most 2^32 - 1 slots.

Time is counted in milliseconds. What is done to the slots takes no time, and what is due at a time
happens as soon as the clock shows it. Waiting, for the drain or for time to pass, goes from one
time at which something is due to the next.
-/

namespace Intercept

/-- A task that holds a slot. -/
structure Admission.Task where
  /-- The name under which it is asked after, unless a later task has taken the name. -/
  name : Option String
  /-- When it ends by itself, if it does. -/
  ends : Option Nat
  /-- How the session ends that the task carries, if it carries one. It enters that into the ledger
  when it ends by itself; an aborted task enters nothing. -/
  ending : Option Ledger.Ending

/-- How far shutting down has come. -/
inductive Admission.Stage where
  | accepting
  /-- Slots are waited for until the given time. -/
  | draining (deadline : Nat)
  | closed
deriving DecidableEq

/-- The slots and who holds them. -/
structure Admission where
  capacity : Nat
  drainMillis : Nat
  now : Nat
  /-- The slots that nobody holds. -/
  slots : Slots
  /-- The names under which slots are held bare. -/
  bare : List String
  running : List Admission.Task
  /-- The tasks that have ended by themselves. -/
  finished : List Admission.Task
  aborted : List Admission.Task
  stage : Admission.Stage
  /-- How many signals of a shutdown have been sent. -/
  signals : Nat
  /-- How many of them one has taken who has listened from the start. -/
  heard : Nat
  ledger : Ledger

/-- Why a session is not admitted. -/
inductive Admission.Refusal where
  | limitReached (current maximum : Nat)
  | shuttingDown
deriving DecidableEq

namespace Admission

def Refusal.text : Refusal → String
  | .limitReached current maximum =>
    "Connection limit reached (" ++ Decimal.text current ++ "/" ++ Decimal.text maximum ++ ")"
  | .shuttingDown => "Server is shutting down"

def Refusal.sort : Refusal → String
  | .limitReached _ _ => "limit_reached"
  | .shuttingDown => "shutting_down"

/-- Slots of which none has been taken. -/
def start (capacity drainMillis : Nat) : Admission :=
  ⟨capacity, drainMillis, 0, .ofCount capacity, [], [], [], [], .accepting, 0, 0, .empty⟩

/-! ### Slots -/

/-- How many slots sessions hold. -/
def held (m : Admission) : Nat := m.bare.length + m.running.length

def available (m : Admission) : Nat := m.slots.free

/-- How many slots are not available. -/
def active (m : Admission) : Nat := m.capacity - m.available

def isFull (m : Admission) : Bool := m.available = 0

def isShuttingDown (m : Admission) : Bool := m.stage ≠ .accepting

def isDraining (m : Admission) : Bool :=
  match m.stage with
  | .draining _ => true
  | _ => false

/-- The most slots that a drain asks for. -/
def drainLimit : Nat := 4294967295

/-- How many slots a drain asks for. -/
def request (m : Admission) : Nat := min m.capacity drainLimit

/-! ### What happens when it is due -/

def Task.hasEnded (now : Nat) (t : Task) : Bool :=
  match t.ends with
  | some time => time ≤ now
  | none => false

/-- What a task enters into the ledger when it ends by itself. -/
def Task.report (t : Task) : List Ledger.Entry :=
  match t.ending with
  | some ending => ending.entries
  | none => []

/-- Tasks whose time has come end, enter their report, and give their slots back. -/
def endTasks (m : Admission) : Admission :=
  let due := m.running.filter (·.hasEnded m.now)
  { m with
    slots := m.slots.giveBack due.length
    running := m.running.filter (!·.hasEnded m.now)
    finished := m.finished ++ due
    ledger := m.ledger.recordAll (due.flatMap (·.report)) }

/-- Ends all tasks, which give their slots back. -/
def abort (m : Admission) : Admission := { m with
  slots := m.slots.giveBack m.running.length
  running := []
  aborted := m.aborted ++ m.running }

/-- The wait of a drain is over, and what it has collected is free again. -/
def returnFromDrain (m : Admission) : Admission :=
  { m with slots := m.slots.dismiss, stage := .closed }

/-- A drain ends when nothing is missing, or with an abort when its time is over. -/
def endDrain (m : Admission) : Admission :=
  match m.stage with
  | .draining deadline =>
    if m.slots.missing = 0 then m.returnFromDrain
    else if deadline ≤ m.now then m.returnFromDrain.abort
    else m
  | _ => m

def settle (m : Admission) : Admission := m.endTasks.endDrain

def settleAt (m : Admission) (time : Nat) : Admission := settle { m with now := time }

/-! ### What is done -/

/-- Gives the slot back that is held bare under a name, if there is one. -/
def letGo (m : Admission) (name : String) : Admission := { m with
  bare := m.bare.erase name
  slots := m.slots.giveBack (if name ∈ m.bare then 1 else 0) }

def hold (m : Admission) (name : String) : Admission := { m with bare := name :: m.bare }

/-- A session holds bare the slot that is missing from those given; if one has been held under the
name before, that one is given back afterwards. -/
def letIn (m : Admission) (slots : Slots) (name : String) (transport : Transport) : Admission :=
  ({ m with slots, ledger := m.ledger.record (.accepted transport) }.letGo name).hold name

/-- Takes a slot for a session. -/
def enter (m : Admission) (name : String) (transport : Transport) :
    Except Refusal Unit × Admission :=
  if m.isShuttingDown then (.error .shuttingDown, m)
  else match m.slots.take? with
    | none =>
      (.error (.limitReached m.active m.capacity), { m with ledger := m.ledger.record .rejected })
    | some slots => (.ok (), m.letIn slots name transport)

def release (m : Admission) (name : String) : Bool × Admission :=
  if name ∈ m.bare then (true, (m.letGo name).settle) else (false, m)

/-- The task without its name, if it has the given one. -/
def Task.yieldName (name : String) (t : Task) : Task :=
  if t.name = some name then { t with name := none } else t

/-- A task takes over the slot that is held bare under a name, and the name with it. -/
def handOver (m : Admission) (name : String) (millis : Option Nat) (ending : Option Ledger.Ending) :
    Admission := { m with
  bare := m.bare.erase name
  running := m.running.map (·.yieldName name) ++ [⟨some name, millis.map (m.now + ·), ending⟩] }

/-- Hands the slot that is held bare under a name to a task, which ends by itself after so many
milliseconds if any are given. -/
def spawn (m : Admission) (name : String) (millis : Option Nat) (ending : Option Ledger.Ending) :
    Bool × Admission :=
  if name ∈ m.bare then (true, (m.handOver name millis ending).settle) else (false, m)

/-- Admits a session and hands its slot to the task that carries the session. -/
def serve (m : Admission) (name : String) (transport : Transport) (millis : Option Nat)
    (ending : Ledger.Ending) : Except Refusal Unit × Admission :=
  match m.enter name transport with
  | (.ok (), m) => (.ok (), (m.spawn name millis (some ending)).2)
  | refused => refused

/-- Closes admission, sends the signal and asks for slots. -/
def startDrain (m : Admission) : Admission := { m with
  stage := .draining (m.now + m.drainMillis)
  signals := m.signals + 1
  slots := m.slots.ask m.request }

/-- Begins to shut down; later shutdowns do nothing. -/
def beginShutdown (m : Admission) : Admission :=
  if m.isShuttingDown then m else m.startDrain.settle

/-- Takes a signal, if there is one that has not been taken. -/
def takeSignal (m : Admission) : Bool × Admission :=
  if m.heard < m.signals then (true, { m with heard := m.heard + 1 }) else (false, m)

/-- Whether the last task of a name has ended; `none` if there was no task of that name. -/
def hasEnded? (m : Admission) (name : String) : Option Bool :=
  if m.running.any (·.name = some name) then some false
  else if (m.finished ++ m.aborted).any (·.name = some name) then some true
  else none

/-! ### Waiting -/

def Stage.deadline? : Stage → Option Nat
  | .draining deadline => some deadline
  | _ => none

/-- The times at which something is due. -/
def dueTimes (m : Admission) : List Nat :=
  m.running.filterMap (·.ends) ++ m.stage.deadline?.toList

/-- The times up to a later one at which something is due, in ascending order, and that one. -/
def stops (m : Admission) (time : Nat) : List Nat :=
  (m.dueTimes.filter fun t => m.now < t ∧ t < time).mergeSort ++ [time]

/-- Waits until the clock shows a later time. -/
def waitUntil (m : Admission) (time : Nat) : Admission := (m.stops time).foldl settleAt m

def wait (m : Admission) (millis : Nat) : Admission := m.waitUntil (m.now + millis)

/-- Goes on to a time if a drain is still waited for. -/
def drainAt (m : Admission) (time : Nat) : Admission := if m.isDraining then m.settleAt time else m

/-- Waits for the end of a drain. -/
def join (m : Admission) : Admission :=
  match m.stage with
  | .draining deadline => (m.stops deadline).foldl drainAt m
  | _ => m

/-- Closes admission and waits for the end of the drain; later shutdowns do nothing. -/
def shutdown (m : Admission) : Admission := if m.isShuttingDown then m else m.beginShutdown.join

/-! ### Histories -/

/-- What happens at one moment. -/
inductive Action where
  | enter (name : String) (transport : Transport)
  | release (name : String)
  | spawn (name : String) (millis : Option Nat) (ending : Option Ledger.Ending)
  | shutdown
  | takeSignal
  /-- A millisecond passes. -/
  | tick

def act (m : Admission) : Action → Admission
  | .enter name transport => (m.enter name transport).2
  | .release name => (m.release name).2
  | .spawn name millis ending => (m.spawn name millis ending).2
  | .shutdown => m.beginShutdown
  | .takeSignal => m.takeSignal.2
  | .tick => m.settleAt (m.now + 1)

def actAll (m : Admission) (history : List Action) : Admission := history.foldl act m

@[simp]
theorem actAll_nil (m : Admission) : m.actAll [] = m := rfl

@[simp]
theorem actAll_cons (m : Admission) (a : Action) (history : List Action) :
    m.actAll (a :: history) = (m.act a).actAll history := rfl

theorem actAll_append (m : Admission) (before after : List Action) :
    m.actAll (before ++ after) = (m.actAll before).actAll after := by
  simp [actAll]

end Admission

end Intercept
