import Intercept.Proofs.FlowTable.Registration

/-!
# Where datagrams go

Of every datagram that comes in one thing becomes: it waits behind others for the open session of its
flow, it is dropped because too many wait, it opens a session of its flow, or there is no slot for one.
So what was sent to a session is what the datagrams that reached it carried, in the order in which
they came, and all of them are of its flow.

## Main statements

* `Treated.accounted`: what one datagram adds to the accounts.
* `Accounted.run`: the accounts after a history.
* `delivers_in_order`: what the flow table does in every history.
-/

namespace Intercept.FlowTable

variable {t t' : FlowTable} {flow : Session.Flow} {payload : Bytes} {hasSlot : Bool} {fate : Fate}
  {n : Nat} {m : Member}

/-! ### What became of each datagram -/

/-- A datagram that came in, and what became of it. -/
structure Passage where
  flow : Session.Flow
  payload : Bytes
  fate : Fate
deriving DecidableEq

/-- The session that a datagram reached. -/
def Fate.reached? : Fate → Option Nat
  | .queued n | .opened n => some n
  | .dropped | .refused => none

/-- The session that a datagram opened. -/
def Fate.opened? : Fate → Option Nat
  | .opened n => some n
  | .queued _ | .dropped | .refused => none

/-- The datagram that comes in with an event, if one does. -/
def Event.datagram? : Event → Option (Session.Flow × Bytes)
  | .datagram flow payload _ => some (flow, payload)
  | .take _ | .close _ | .finish _ | .reap => none

def passage? (t : FlowTable) : Event → Option Passage
  | .datagram flow payload hasSlot => some ⟨flow, payload, (t.dispatch flow payload hasSlot).1⟩
  | .take _ | .close _ | .finish _ | .reap => none

/-- The datagrams of a history, in the order in which they came, with what became of them. -/
def passages (t : FlowTable) : List Event → List Passage
  | [] => []
  | e :: later => (t.passage? e).toList ++ (t.step e).passages later

/-- What the datagrams that reached a session carried, in the order in which they came. -/
def reaching (n : Nat) (passed : List Passage) : List Bytes :=
  (passed.filter (·.fate.reached? = some n)).map (·.payload)

theorem reaching_append (n : Nat) (passed more : List Passage) :
    reaching n (passed ++ more) = reaching n passed ++ reaching n more := by
  simp [reaching]

/-- Every datagram of a history passes, in order. -/
theorem map_passages (t : FlowTable) (history : List Event) :
    (t.passages history).map (fun p => (p.flow, p.payload)) = history.filterMap Event.datagram? := by
  induction history generalizing t with
  | nil => rfl
  | cons e later ih =>
    rw [passages, List.map_append, ih]
    cases e <;> rfl

/-! ### What each session was sent -/

/-- What a session was sent: what it has taken, and what waits for it. -/
def Member.sent (m : Member) : List Bytes := m.taken ++ m.queue

/-- The flow of each session, and what the session was sent. -/
def sent (t : FlowTable) : List (Session.Flow × List Bytes) := t.members.map fun m => (m.flow, m.sent)

theorem getElem?_sent (place : t.members[n]? = some m) : t.sent[n]? = some (m.flow, m.sent) := by
  simp [sent, place]

theorem exists_of_getElem?_sent {entry : Session.Flow × List Bytes} (place : t.sent[n]? = some entry) :
    ∃ m, t.members[n]? = some m ∧ (m.flow, m.sent) = entry := by
  simpa [sent, List.getElem?_map] using place

/-- Changes to a session that send it nothing do not show. -/
theorem sent_modify_of_same (t : FlowTable) (n : Nat) (change : Member → Member)
    (same : ∀ m : Member, (change m).flow = m.flow ∧ (change m).sent = m.sent) :
    (t.modify n change).sent = t.sent := by
  refine List.ext_getElem? fun k => ?_
  simp only [sent, modify, List.getElem?_map, List.getElem?_modify]
  cases t.members[k]? with
  | none => rfl
  | some m =>
    by_cases here : n = k
    · simp [here, same m]
    · simp [here]

theorem sent_takeNext (m : Member) : m.takeNext.flow = m.flow ∧ m.takeNext.sent = m.sent := by
  unfold Member.takeNext
  split
  · rename_i waiting
    exact ⟨rfl, by simp [Member.sent, waiting]⟩
  · exact ⟨rfl, rfl⟩

/-- Where no datagram comes in, nothing is sent, dropped or refused. -/
theorem same_of_passage?_none {e : Event} (none : t.passage? e = none) :
    (t.step e).sent = t.sent ∧ (t.step e).dropped = t.dropped
      ∧ (t.step e).refused = t.refused := by
  cases e with
  | datagram flow payload hasSlot => cases none
  | take n => exact ⟨sent_modify_of_same t n _ sent_takeNext, rfl, rfl⟩
  | close n => exact ⟨sent_modify_of_same t n Member.close fun _ => ⟨rfl, rfl⟩, rfl, rfl⟩
  | finish n =>
    simp only [step, finish]
    split
    · split
      · exact ⟨rfl, rfl, rfl⟩
      · exact ⟨sent_modify_of_same t n Member.finish fun _ => ⟨rfl, rfl⟩, rfl, rfl⟩
    · exact ⟨rfl, rfl, rfl⟩
  | reap =>
    have kept (u : FlowTable) (flow : Session.Flow) : (u.reap flow).sent = u.sent
        ∧ (u.reap flow).dropped = u.dropped ∧ (u.reap flow).refused = u.refused := by
      unfold reap
      split
      · split <;> exact ⟨rfl, rfl, rfl⟩
      · exact ⟨rfl, rfl, rfl⟩
    simp only [step, reapNext]
    split
    · exact ⟨rfl, rfl, rfl⟩
    · exact kept _ _

/-! ### The accounts -/

/-- The passages of datagrams account for what each session was sent and for what was not sent. -/
structure Accounted (t : FlowTable) (passed : List Passage) : Prop where
  /-- A datagram reaches only a session of its flow. -/
  addressed : ∀ p ∈ passed, ∀ n, p.fate.reached? = some n → ∃ s, t.sent[n]? = some (p.flow, s)
  received : ∀ n flow s, t.sent[n]? = some (flow, s) → s = reaching n passed
  /-- One datagram opens each session. -/
  opened : passed.filterMap (·.fate.opened?) = List.range t.sent.length
  dropped : t.dropped = passed.countP (·.fate = .dropped)
  refused : t.refused = passed.countP (·.fate = .refused)

theorem accounted_start (capacity : Nat) : Accounted (start capacity) [] where
  addressed := by simp
  received := by simp [start, sent]
  opened := by simp [start, sent]
  dropped := rfl
  refused := rfl

/-- A datagram that reaches no session is accounted for where it is counted. -/
theorem Accounted.unsent {passed : List Passage} (accounted : Accounted t passed)
    (nowhere : fate.reached? = none) (same : t'.sent = t.sent)
    (dropped : t'.dropped = t.dropped + if fate = .dropped then 1 else 0)
    (refused : t'.refused = t.refused + if fate = .refused then 1 else 0) :
    Accounted t' (passed ++ [⟨flow, payload, fate⟩]) where
  addressed p passes n reached := by
    rcases List.mem_append.mp passes with before | now
    · rw [same]
      exact accounted.addressed p before n reached
    · rw [List.mem_singleton.mp now, nowhere] at reached
      cases reached
  received n other s place := by
    rw [same] at place
    rw [reaching_append, ← accounted.received n other s place]
    simp [reaching, nowhere]
  opened := by
    have none : fate.opened? = none := by cases fate <;> simp_all [Fate.reached?, Fate.opened?]
    rw [List.filterMap_append, accounted.opened, same]
    simp [none]
  dropped := by simp [dropped, accounted.dropped, List.countP_append]
  refused := by simp [refused, accounted.refused, List.countP_append]

/-- A datagram that reaches a session is accounted for as the last that was sent to it. -/
theorem Accounted.delivered {passed : List Passage} (accounted : Accounted t passed)
    (reached : fate.reached? = some n)
    (own : ∀ flow' s, t.sent[n]? = some (flow', s) → flow' = flow)
    (here : t'.sent[n]? = some (flow, reaching n passed ++ [payload]))
    (others : ∀ k, k ≠ n → t'.sent[k]? = t.sent[k]?)
    (opened : List.range t.sent.length ++ fate.opened?.toList = List.range t'.sent.length)
    (dropped : t'.dropped = t.dropped) (refused : t'.refused = t.refused) :
    Accounted t' (passed ++ [⟨flow, payload, fate⟩]) where
  addressed p passes k reaches := by
    rcases List.mem_append.mp passes with before | now
    · obtain ⟨s, place⟩ := accounted.addressed p before k reaches
      by_cases same : k = n
      · rw [same] at place ⊢
        exact ⟨_, own p.flow s place ▸ here⟩
      · exact ⟨s, (others k same).trans place⟩
    · obtain rfl := List.mem_singleton.mp now
      obtain rfl : n = k := Option.some.inj (reached.symm.trans reaches)
      exact ⟨_, here⟩
  received k other s place := by
    rw [reaching_append]
    by_cases same : k = n
    · rw [same, here] at place
      obtain ⟨rfl, rfl⟩ := Prod.mk.inj (Option.some.inj place)
      simp [reaching, same, reached]
    · rw [others k same] at place
      have differs : n ≠ k := fun eq => same eq.symm
      simp [accounted.received k other s place, reaching, reached, differs]
  opened := by
    rw [List.filterMap_append, accounted.opened, ← opened]
    cases h : fate.opened? <;> simp [h]
  dropped := by
    have other : fate ≠ .dropped := by rintro rfl; cases reached
    simp [dropped, accounted.dropped, List.countP_append, other]
  refused := by
    have other : fate ≠ .refused := by rintro rfl; cases reached
    simp [refused, accounted.refused, List.countP_append, other]

/-- What becomes of a datagram is accounted for. -/
theorem Treated.accounted {passed : List Passage}
    (treated : Treated t flow payload hasSlot fate t') (accounted : Accounted t passed) :
    Accounted t' (passed ++ [⟨flow, payload, fate⟩]) := by
  cases treated with
  | dropped => exact accounted.unsent rfl rfl rfl rfl
  | refused => exact accounted.unsent rfl rfl rfl rfl
  | @queued _ n m serves _ =>
    obtain ⟨_, place, rfl, _⟩ := serves
    have before := getElem?_sent place
    have size : (t.modify n (.push payload)).sent.length = t.sent.length := by simp [sent, modify]
    refine accounted.delivered rfl ?_ ?_ ?_ ?_ rfl rfl
    · intro flow' s there
      rw [before] at there
      exact (congrArg Prod.fst (Option.some.inj there)).symm
    · rw [← accounted.received n m.flow m.sent before]
      have pushed : (t.modify n (.push payload)).members[n]? = some (m.push payload) :=
        getElem?_modify_eq_some_iff.mpr ⟨m, place, by simp⟩
      rw [getElem?_sent pushed]
      simp [Member.push, Member.sent]
    · intro k differs
      have elsewhere : n ≠ k := fun eq => differs eq.symm
      simp [sent, modify, elsewhere]
    · rw [size]
      exact List.append_nil _
  | opened =>
    have number : t.sent.length = t.members.length := List.length_map _
    have after : (t.opening flow payload).sent = t.sent ++ [(flow, [payload])] := List.map_append
    have beyond : t.sent[t.members.length]? = none := List.getElem?_eq_none (Nat.le_of_eq number)
    -- nothing has reached the number of a session that is still to be opened
    have silent : reaching t.members.length passed = [] := by
      rw [reaching, List.map_eq_nil_iff, List.filter_eq_nil_iff]
      intro p passes reached
      obtain ⟨s, place⟩ := accounted.addressed p passes _ (by simpa using reached)
      rw [beyond] at place
      cases place
    refine accounted.delivered rfl ?_ ?_ ?_ ?_ rfl rfl
    · intro flow' s there
      rw [beyond] at there
      cases there
    · rw [after, silent, ← number]
      simp
    · intro k differs
      rw [after, List.getElem?_append]
      split
      · rfl
      · rename_i late
        have behind : k - t.sent.length ≠ 0 := by omega
        rw [List.getElem?_eq_none (Nat.not_lt.mp late)]
        simp [behind]
    · rw [after, List.length_append, number]
      exact List.range_succ.symm

theorem Accounted.step {passed : List Passage} (accounted : Accounted t passed) (sound : Sound t)
    (e : Event) : Accounted (t.step e) (passed ++ (t.passage? e).toList) := by
  cases passes : t.passage? e with
  | none =>
    obtain ⟨sent, dropped, refused⟩ := same_of_passage?_none passes
    rw [Option.toList_none, List.append_nil]
    exact ⟨sent ▸ accounted.addressed, sent ▸ accounted.received, sent ▸ accounted.opened,
      dropped.trans accounted.dropped, refused.trans accounted.refused⟩
  | some p =>
    cases e with
    | datagram flow payload hasSlot =>
      cases passes
      exact (sound.treated_dispatch flow payload hasSlot).accounted accounted
    | take | close | finish | reap => cases passes

theorem Accounted.run {passed : List Passage} (accounted : Accounted t passed) (sound : Sound t)
    (history : List Event) : Accounted (t.run history) (passed ++ t.passages history) := by
  induction history generalizing t passed with
  | nil =>
    rw [passages, List.append_nil]
    exact accounted
  | cons e later ih =>
    rw [passages, ← List.append_assoc]
    exact ih (accounted.step sound e) (sound.step e)

/-! ### Every history -/

/-- **The flow table.** After every history a notice, however late, leaves a flow whose session is
open registered with it; a datagram waits last for the open session of its flow, is dropped and
counted because as many wait as may, opens the one new session of its flow, or is refused; and
nothing else becomes of it. What was sent to a session is what the datagrams that reached it carried,
in the order in which they came, and all of those are of its flow. When no notice is under way and
every closed session has ended, the flows that are registered are those with an open session. -/
theorem delivers_in_order (capacity : Nat) (history : List Event) :
    let t := (start capacity).run history
    let passed := (start capacity).passages history
    (∀ flow n m, t.registered? flow = some n → t.members[n]? = some m → m.isOpen = true →
      (∀ noticed, (t.reap noticed).registered? flow = some n)
        ∧ (t.step .reap).registered? flow = some n)
    ∧ t.capacity = max 1 capacity
    ∧ (∀ flow payload hasSlot fate t', t.dispatch flow payload hasSlot = (fate, t') ↔
      Treated t flow payload hasSlot fate t')
    ∧ passed.map (fun p => (p.flow, p.payload)) = history.filterMap Event.datagram?
    ∧ (∀ p ∈ passed, ∀ n, p.fate.reached? = some n → ∃ m, t.members[n]? = some m ∧ m.flow = p.flow)
    ∧ (∀ n m, t.members[n]? = some m → m.taken ++ m.queue = reaching n passed)
    ∧ passed.filterMap (·.fate.opened?) = List.range t.members.length
    ∧ t.dropped = passed.countP (·.fate = .dropped)
    ∧ t.refused = passed.countP (·.fate = .refused)
    ∧ (t.notices = [] → (∀ m ∈ t.members, m.isOpen = false → m.hasEnded = true) →
      ∀ flow n, t.registered? flow = some n ↔
        ∃ m, t.members[n]? = some m ∧ m.flow = flow ∧ m.isOpen = true) := by
  intro t passed
  have sound : Sound t := sound_run (sound_start capacity) history
  have accounted : Accounted t passed := (accounted_start capacity).run (sound_start capacity) history
  have reap : ∀ flow n m, t.registered? flow = some n → t.members[n]? = some m →
      m.isOpen = true → (∀ noticed, (t.reap noticed).registered? flow = some n)
        ∧ (t.step .reap).registered? flow = some n := by
    intro flow n m registered place isOpen
    obtain ⟨_, place', carries⟩ := sound.own flow n registered
    obtain rfl := Option.some.inj (place.symm.trans place')
    have serves : Serves t flow n m := ⟨registered, place, carries, isOpen⟩
    exact ⟨serves.registered?_reap, serves.registered?_step_reap⟩
  have reached : ∀ p ∈ passed, ∀ n, p.fate.reached? = some n →
      ∃ m, t.members[n]? = some m ∧ m.flow = p.flow := by
    intro p passes n reaches
    obtain ⟨s, place⟩ := accounted.addressed p passes n reaches
    obtain ⟨m, here, same⟩ := exists_of_getElem?_sent place
    exact ⟨m, here, congrArg Prod.fst same⟩
  have received : ∀ n m, t.members[n]? = some m → m.taken ++ m.queue = reaching n passed :=
    fun n m place => accounted.received n m.flow m.sent (getElem?_sent place)
  have opened : passed.filterMap (·.fate.opened?) = List.range t.members.length := by
    rw [accounted.opened, sent, List.length_map]
  exact ⟨reap, (sound_start capacity).capacity_run history, fun _ _ _ _ _ => sound.treated_iff.symm,
    map_passages _ history, reached, received, opened, accounted.dropped, accounted.refused,
    fun noNotice ended _ _ => sound.registered?_iff_of_quiet noNotice ended⟩

/-- One datagram may wait. A third datagram is dropped, a fourth comes to a closed session and opens
another, and the first session's notice comes only then: the flow keeps its second session. Another
flow finds no slot. When the second session has closed and ended, and its notice has come, no flow is
registered. -/
theorem delivered_to_replaced_session :
    let client : Endpoint := .v4 ⟨10, 0, 0, 1⟩ 5000
    let flow : Session.Flow := ⟨client, .v4 ⟨10, 0, 0, 2⟩ 53⟩
    let other : Session.Flow := ⟨client, .v4 ⟨10, 0, 0, 3⟩ 53⟩
    let late : List Event := [.datagram flow [1] true, .take 0, .datagram flow [2] true,
      .datagram flow [3] true, .close 0, .datagram flow [4] true, .finish 0]
    let history := late ++ [.reap, .datagram other [5] false, .take 1, .close 1, .finish 1, .reap]
    ((start 1).run (late ++ [.reap])).registered? flow = some 1
    ∧ ((start 1).passages history).map (·.fate)
      = [.opened 0, .queued 0, .dropped, .opened 1, .refused]
    ∧ ((start 1).run history).members.map (fun m => m.taken ++ m.queue) = [[[1], [2]], [[4]]]
    ∧ ∀ f, ((start 1).run history).registered? f = none := by
  intro client flow other late history
  obtain ⟨reap, _⟩ := delivers_in_order 1 late
  have replaced : ((start 1).run late).registered? flow = some 1 := by decide
  have second : ((start 1).run late).members[1]? = some ⟨flow, [[4]], [], true, false⟩ := by decide
  have kept : ((start 1).run (late ++ [.reap])).registered? flow = some 1 := by
    rw [run_concat]
    exact (reap flow 1 _ replaced second rfl).2
  obtain ⟨_, _, _, _, _, _, _, _, _, quiet⟩ := delivers_in_order 1 history
  have noNotice : ((start 1).run history).notices = [] := by decide
  have ended : ∀ m ∈ ((start 1).run history).members, m.isOpen = false → m.hasEnded = true := by
    decide
  have closed : ∀ m ∈ ((start 1).run history).members, m.isOpen = false := by decide
  refine ⟨kept, by decide, by decide, fun f => Option.eq_none_iff_forall_ne_some.mpr ?_⟩
  intro n registered
  obtain ⟨m, place, _, isOpen⟩ := (quiet noNotice ended f n).mp registered
  rw [closed m (List.mem_of_getElem? place)] at isOpen
  cases isOpen

end Intercept.FlowTable
