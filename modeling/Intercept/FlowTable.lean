import Intercept.Session

/-!
# The flow table

The datagrams of one client to one destination make up a flow, and a flow that is alive has a
session. The table says which session a flow is registered with. A datagram is appended to the queue
of the flow's session; if the queue is full the datagram is dropped, and if the session takes no
more datagrams, or there is none, a new session is opened with the datagram as its first, provided
that there is a slot for it. A session that has ended sends a notice, which may come late: the flow
may have another session by then. A notice removes a flow from the table only if the session that it
is registered with takes no more datagrams.

Sessions are numbered in the order in which they were opened.

## Main statements

* `registered?_enroll_self`, `registered?_enroll_of_ne`, `registered?_forget_self`,
  `registered?_forget_of_ne`: what registering and forgetting do to the table.
* `registered?_reap_of_isOpen`: a notice never removes a flow whose session is open.
-/

namespace Intercept

/-- A session, as far as the flow table is concerned. -/
structure FlowTable.Member where
  flow : Session.Flow
  /-- The datagrams that wait, in order. -/
  queue : List Bytes
  /-- The datagrams that the session has taken, in order. -/
  taken : List Bytes
  /-- Whether the session takes datagrams. -/
  isOpen : Bool
  hasEnded : Bool
deriving DecidableEq

/-- The flow table, the sessions that were ever opened, and the notices that are under way. -/
structure FlowTable where
  /-- How many datagrams may wait for a session. -/
  capacity : Nat
  members : List FlowTable.Member
  /-- The flows that are registered, each with the number of its session. -/
  registered : List (Session.Flow × Nat)
  /-- The flows whose sessions have ended and that have not been looked at since, in order. -/
  notices : List Session.Flow
  dropped : Nat
  /-- How many datagrams were discarded because there was no slot for a session. -/
  refused : Nat
deriving DecidableEq

/-- What becomes of a datagram. -/
inductive FlowTable.Fate where
  | queued (session : Nat)
  | dropped
  | opened (session : Nat)
  | refused
deriving DecidableEq

namespace FlowTable

/-- A table without flows; at least one datagram may wait for a session. -/
def start (capacity : Nat) : FlowTable := ⟨max 1 capacity, [], [], [], 0, 0⟩

/-! ### Registered flows -/

def registered? (t : FlowTable) (flow : Session.Flow) : Option Nat :=
  (t.registered.find? (·.1 = flow)).map (·.2)

def session? (t : FlowTable) (flow : Session.Flow) : Option Member :=
  (t.registered? flow).bind (t.members[·]?)

def forget (t : FlowTable) (flow : Session.Flow) : FlowTable :=
  { t with registered := t.registered.filter (·.1 ≠ flow) }

/-- The table with a flow registered with a session, and with no other. -/
def enroll (t : FlowTable) (flow : Session.Flow) (number : Nat) : FlowTable :=
  { t with registered := (flow, number) :: (t.forget flow).registered }

/-- The table with the session of a number changed. -/
def modify (t : FlowTable) (number : Nat) (change : Member → Member) : FlowTable :=
  { t with members := t.members.modify number change }

/-! ### Datagrams -/

def Member.push (payload : Bytes) (m : Member) : Member := { m with queue := m.queue ++ [payload] }

/-- Opens a session for a flow with its first datagram, if there is a slot. -/
def openSession (t : FlowTable) (flow : Session.Flow) (first : Bytes) (hasSlot : Bool) :
    Fate × FlowTable :=
  if hasSlot then
    let number := t.members.length
    let opened : FlowTable :=
      { t with members := t.members ++ [⟨flow, [first], [], true, false⟩] }
    (.opened number, opened.enroll flow number)
  else (.refused, { t with refused := t.refused + 1 })

/-- Takes in a datagram. -/
def dispatch (t : FlowTable) (flow : Session.Flow) (payload : Bytes) (hasSlot : Bool) :
    Fate × FlowTable :=
  match t.registered? flow with
  | none => t.openSession flow payload hasSlot
  | some number => match t.members[number]? with
    | none => t.openSession flow payload hasSlot
    | some m =>
      if !m.isOpen then (t.forget flow).openSession flow payload hasSlot
      else if m.queue.length < t.capacity then (.queued number, t.modify number (.push payload))
      else (.dropped, { t with dropped := t.dropped + 1 })

/-! ### Sessions -/

/-- A session that has taken the first of the datagrams that wait. -/
def Member.takeNext (m : Member) : Member :=
  match m.isOpen, m.queue with
  | true, next :: rest => { m with queue := rest, taken := m.taken ++ [next] }
  | _, _ => m

def Member.close (m : Member) : Member := { m with isOpen := false }

def Member.finish (m : Member) : Member := { m with hasEnded := true }

/-- A session that takes no more datagrams ends, and sends its notice. -/
def finish (t : FlowTable) (number : Nat) : FlowTable :=
  match t.members[number]? with
  | some m =>
    if m.isOpen || m.hasEnded then t
    else { t.modify number Member.finish with notices := t.notices ++ [m.flow] }
  | none => t

/-- Looks at a flow whose session is said to have ended. -/
def reap (t : FlowTable) (flow : Session.Flow) : FlowTable :=
  match t.session? flow with
  | some m => if m.isOpen then t else t.forget flow
  | none => t

def reapNext (t : FlowTable) : FlowTable :=
  match t.notices with
  | [] => t
  | flow :: rest => { t with notices := rest }.reap flow

/-! ### Histories -/

inductive Event where
  /-- A datagram comes in, and there is a slot for a session, or none. -/
  | datagram (flow : Session.Flow) (payload : Bytes) (hasSlot : Bool)
  | take (session : Nat)
  | close (session : Nat)
  | finish (session : Nat)
  | reap
deriving DecidableEq

def step (t : FlowTable) : Event → FlowTable
  | .datagram flow payload hasSlot => (t.dispatch flow payload hasSlot).2
  | .take session => t.modify session Member.takeNext
  | .close session => t.modify session Member.close
  | .finish session => t.finish session
  | .reap => t.reapNext

def run (t : FlowTable) (history : List Event) : FlowTable := history.foldl step t

/-! ### Registering and forgetting -/

@[simp]
theorem registered?_enroll_self (t : FlowTable) (flow : Session.Flow) (number : Nat) :
    (t.enroll flow number).registered? flow = some number := by
  simp [registered?, enroll]

theorem registered?_forget_self (t : FlowTable) (flow : Session.Flow) :
    (t.forget flow).registered? flow = none := by
  simp [registered?, forget]

theorem registered?_forget_of_ne {flow other : Session.Flow} (h : other ≠ flow) (t : FlowTable) :
    (t.forget flow).registered? other = t.registered? other := by
  have same (entry : Session.Flow × Nat) :
      (entry.1 ≠ flow ∧ entry.1 = other) ↔ entry.1 = other :=
    ⟨And.right, fun found => ⟨found ▸ h, found⟩⟩
  simp only [registered?, forget, List.find?_filter, decide_eq_true_eq, same]

theorem registered?_enroll_of_ne {flow other : Session.Flow} (h : other ≠ flow) (t : FlowTable)
    (number : Nat) : (t.enroll flow number).registered? other = t.registered? other := by
  have kept := registered?_forget_of_ne h t
  have differs : ¬ flow = other := fun e => h e.symm
  simpa [registered?, enroll, differs] using kept

/-- **Live flows.** A notice does not remove a flow whose session is open. -/
theorem registered?_reap_of_isOpen {t : FlowTable} {flow : Session.Flow} {m : Member}
    (h : t.session? flow = some m) (live : m.isOpen = true) (noticed : Session.Flow) :
    (t.reap noticed).registered? flow = t.registered? flow := by
  unfold reap
  split
  · rename_i other found
    split
    · rfl
    · rename_i closed
      refine registered?_forget_of_ne (fun e => ?_) t
      subst e
      rw [h] at found
      cases found
      exact closed live
  · rfl

end FlowTable

end Intercept
