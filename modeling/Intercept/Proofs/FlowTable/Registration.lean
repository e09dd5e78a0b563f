import Intercept.FlowTable

/-!
# Which session a flow is registered with

A notice may come when the flow has another session already, and a flow whose session has closed may
have a datagram before its notice comes. Through all of this an open session stays registered for its
own flow, and for no other; and a session that has ended is registered only as long as a notice for
its flow is under way.

## Main statements

* `Sound.step`, `sound_run`: what holds at every moment of every history.
* `Sound.treated_iff`: what becomes of a datagram.
* `Serves.registered?_step_reap`: a notice never removes a flow whose session is open.
* `Sound.registered?_iff_of_quiet`: which flows are registered when nothing is under way.
-/

namespace Intercept.FlowTable

variable {t t' : FlowTable} {flow other : Session.Flow} {n k : Nat} {m : Member} {payload : Bytes}
  {hasSlot : Bool} {fate : Fate}

/-! ### What holds at every moment -/

structure Sound (t : FlowTable) : Prop where
  roomy : 0 < t.capacity
  few : ∀ m ∈ t.members, m.queue.length ≤ t.capacity
  /-- A flow is registered only with a session of its own. -/
  own : ∀ flow n, t.registered? flow = some n → ∃ m, t.members[n]? = some m ∧ m.flow = flow
  /-- An open session is registered. -/
  listed : ∀ n m, t.members[n]? = some m → m.isOpen = true → t.registered? m.flow = some n
  closed : ∀ m ∈ t.members, m.hasEnded = true → m.isOpen = false
  /-- For an ended session that is still registered a notice is under way. -/
  noticed : ∀ flow n m, t.registered? flow = some n → t.members[n]? = some m →
    m.hasEnded = true → flow ∈ t.notices

theorem sound_start (capacity : Nat) : Sound (start capacity) where
  roomy := Nat.lt_of_lt_of_le Nat.zero_lt_one (Nat.le_max_left 1 capacity)
  few := by simp [start]
  own := by simp [start, registered?]
  listed := by simp [start]
  closed := by simp [start]
  noticed := by simp [start]

/-! ### Changing one session -/

theorem getElem?_modify_eq_some_iff {change : Member → Member} :
    (t.modify n change).members[k]? = some m ↔
      ∃ old, t.members[k]? = some old ∧ m = if n = k then change old else old := by
  simp only [modify, List.getElem?_modify]
  cases t.members[k]? with
  | none => simp
  | some old => simp [eq_comm]

/-- A change to a session that neither reopens it nor hands it to another flow. Sessions end only when
they are closed, with a notice. -/
structure Tame (t : FlowTable) (notices : List Session.Flow) (m m' : Member) : Prop where
  flow : m'.flow = m.flow
  few : m'.queue.length ≤ t.capacity
  isOpen : m'.isOpen = true → m.isOpen = true
  hasEnded : m'.hasEnded = true → m'.isOpen = false ∧ (m.hasEnded = true ∨ m.flow ∈ notices)

theorem Sound.tame (sound : Sound t) (notices : List Session.Flow) (found : t.members[n]? = some m) :
    Tame t notices m m where
  flow := rfl
  few := sound.few m (List.mem_of_getElem? found)
  isOpen := id
  hasEnded ended := ⟨sound.closed m (List.mem_of_getElem? found) ended, .inl ended⟩

/-- A tame change to one session, with more notices. -/
theorem Sound.change (sound : Sound t) {notices : List Session.Flow} {change : Member → Member}
    (more : ∀ flow ∈ t.notices, flow ∈ notices)
    (tame : ∀ m, t.members[n]? = some m → Tame t notices m (change m)) :
    Sound { t.modify n change with notices } := by
  have each : ∀ (k : Nat) (m' : Member), (t.modify n change).members[k]? = some m' →
      ∃ m, t.members[k]? = some m ∧ Tame t notices m m' := by
    intro k m' found
    obtain ⟨m, before, rfl⟩ := getElem?_modify_eq_some_iff.mp found
    refine ⟨m, before, ?_⟩
    split
    · rename_i same
      exact tame m (same ▸ before)
    · exact sound.tame notices before
  have member : ∀ m' ∈ (t.modify n change).members,
      ∃ m, m ∈ t.members ∧ Tame t notices m m' := by
    intro m' found
    obtain ⟨k, place⟩ := List.mem_iff_getElem?.mp found
    obtain ⟨m, before, kept⟩ := each k m' place
    exact ⟨m, List.mem_of_getElem? before, kept⟩
  constructor
  · exact sound.roomy
  · intro m' found
    obtain ⟨m, _, kept⟩ := member m' found
    exact kept.few
  · intro flow k registered
    obtain ⟨m, before, carries⟩ := sound.own flow k registered
    refine ⟨_, getElem?_modify_eq_some_iff.mpr ⟨m, before, rfl⟩, ?_⟩
    split
    · rename_i same
      exact (tame m (same ▸ before)).flow.trans carries
    · exact carries
  · intro k m' found isOpen
    obtain ⟨m, before, kept⟩ := each k m' found
    rw [kept.flow]
    exact sound.listed k m before (kept.isOpen isOpen)
  · intro m' found ended
    obtain ⟨m, _, kept⟩ := member m' found
    exact (kept.hasEnded ended).1
  · intro flow k m' registered found ended
    obtain ⟨m, before, kept⟩ := each k m' found
    rcases (kept.hasEnded ended).2 with already | now
    · exact more flow (sound.noticed flow k m registered before already)
    · obtain ⟨same, place, carries⟩ := sound.own flow k registered
      rw [before] at place
      cases place
      exact carries ▸ now

/-! ### Forgetting and registering -/

/-- The open session that a flow is registered with. -/
def Serves (t : FlowTable) (flow : Session.Flow) (n : Nat) (m : Member) : Prop :=
  t.registered? flow = some n ∧ t.members[n]? = some m ∧ m.flow = flow ∧ m.isOpen = true

/-- No session of the flow is open. -/
def Unserved (t : FlowTable) (flow : Session.Flow) : Prop :=
  ∀ m ∈ t.members, m.flow = flow → m.isOpen = false

theorem Sound.serves_or_unserved (sound : Sound t) (flow : Session.Flow) :
    (∃ n m, Serves t flow n m) ∨ Unserved t flow := by
  by_cases alive : ∃ m ∈ t.members, m.flow = flow ∧ m.isOpen = true
  · obtain ⟨m, found, rfl, isOpen⟩ := alive
    obtain ⟨n, place⟩ := List.mem_iff_getElem?.mp found
    exact .inl ⟨n, m, sound.listed n m place isOpen, place, rfl, isOpen⟩
  · refine .inr fun m found carries => ?_
    cases isOpen : m.isOpen with
    | false => rfl
    | true => exact absurd ⟨m, found, carries, isOpen⟩ alive

theorem Unserved.flow_ne (dead : Unserved t flow) (place : t.members[n]? = some m)
    (isOpen : m.isOpen = true) : m.flow ≠ flow := by
  intro same
  rw [dead m (List.mem_of_getElem? place) same] at isOpen
  cases isOpen

/-- A flow without an open session may be forgotten. -/
theorem Sound.forget (sound : Sound t) (dead : Unserved t flow) : Sound (t.forget flow) where
  roomy := sound.roomy
  few := sound.few
  own other n registered := by
    by_cases same : other = flow
    · rw [same, registered?_forget_self] at registered
      cases registered
    · rw [registered?_forget_of_ne same] at registered
      exact sound.own other n registered
  listed n m place isOpen := by
    rw [registered?_forget_of_ne (dead.flow_ne place isOpen)]
    exact sound.listed n m place isOpen
  closed := sound.closed
  noticed other n m registered place ended := by
    by_cases same : other = flow
    · rw [same, registered?_forget_self] at registered
      cases registered
    · rw [registered?_forget_of_ne same] at registered
      exact sound.noticed other n m registered place ended

/-- Where there is nothing to forget, nothing is forgotten. -/
theorem forget_of_registered?_none (none : t.registered? flow = none) : t.forget flow = t := by
  have absent : ∀ entry ∈ t.registered, entry.1 ≠ flow := by
    intro entry listed same
    simp only [registered?, Option.map_eq_none_iff, List.find?_eq_none] at none
    exact none entry listed (by simpa using same)
  have kept : t.registered.filter (·.1 ≠ flow) = t.registered :=
    List.filter_eq_self.mpr fun entry listed => by simpa using absent entry listed
  rw [FlowTable.forget, kept]

/-- The session that is opened for a flow with its first datagram. -/
def Member.fresh (flow : Session.Flow) (first : Bytes) : Member := ⟨flow, [first], [], true, false⟩

/-- The table with a fresh session, with which its flow is registered. -/
def opening (t : FlowTable) (flow : Session.Flow) (first : Bytes) : FlowTable :=
  enroll { t with members := t.members ++ [.fresh flow first] } flow t.members.length

theorem registered?_opening_self (t : FlowTable) (flow : Session.Flow) (first : Bytes) :
    (t.opening flow first).registered? flow = some t.members.length :=
  registered?_enroll_self _ flow t.members.length

theorem registered?_opening_of_ne (differs : other ≠ flow) (t : FlowTable) (first : Bytes) :
    (t.opening flow first).registered? other = t.registered? other :=
  registered?_enroll_of_ne differs _ t.members.length

/-- The sessions are the old ones, in their places, and the fresh one behind them. -/
theorem getElem?_opening_eq_some_iff {first : Bytes} :
    (t.opening flow first).members[k]? = some m ↔
      t.members[k]? = some m ∨ (k = t.members.length ∧ m = .fresh flow first) := by
  show (t.members ++ [_])[k]? = some m ↔ _
  rw [List.getElem?_append]
  rcases Nat.lt_trichotomy k t.members.length with before | rfl | behind
  · have differs : k ≠ t.members.length := Nat.ne_of_lt before
    simp [before, differs]
  · simp [eq_comm]
  · have late : ¬ k < t.members.length := Nat.not_lt.mpr (Nat.le_of_lt behind)
    have differs : k ≠ t.members.length := Nat.ne_of_gt behind
    have beyond : k - t.members.length ≠ 0 := Nat.sub_ne_zero_of_lt behind
    simp [late, differs, beyond]

/-- A flow without an open session may get one. -/
theorem Sound.opening (sound : Sound t) (dead : Unserved t flow) (first : Bytes) :
    Sound (t.opening flow first) := by
  have member : ∀ m ∈ (t.opening flow first).members, m ∈ t.members ∨ m = .fresh flow first := by
    intro m found
    rcases List.mem_append.mp found with old | new
    · exact .inl old
    · exact .inr (List.mem_singleton.mp new)
  constructor
  · exact sound.roomy
  · intro m found
    rcases member m found with old | rfl
    · exact sound.few m old
    · exact sound.roomy
  · intro other n registered
    by_cases same : other = flow
    · rw [same, registered?_opening_self] at registered
      cases registered
      exact ⟨_, getElem?_opening_eq_some_iff.mpr (.inr ⟨rfl, rfl⟩), same.symm⟩
    · rw [registered?_opening_of_ne same] at registered
      obtain ⟨m, place, carries⟩ := sound.own other n registered
      exact ⟨m, getElem?_opening_eq_some_iff.mpr (.inl place), carries⟩
  · intro n m place isOpen
    rcases getElem?_opening_eq_some_iff.mp place with old | ⟨rfl, rfl⟩
    · rw [registered?_opening_of_ne (dead.flow_ne old isOpen)]
      exact sound.listed n m old isOpen
    · exact registered?_opening_self t flow first
  · intro m found ended
    rcases member m found with old | rfl
    · exact sound.closed m old ended
    · cases ended
  · intro other n m registered place ended
    rcases getElem?_opening_eq_some_iff.mp place with old | ⟨_, rfl⟩
    · have differs : other ≠ flow := by
        intro same
        rw [same, registered?_opening_self] at registered
        cases registered
        obtain ⟨inside, _⟩ := List.getElem?_eq_some_iff.mp old
        exact absurd inside (Nat.lt_irrefl _)
      rw [registered?_opening_of_ne differs] at registered
      exact sound.noticed other n m registered old ended
    · cases ended

/-! ### Datagrams -/

/-- What becomes of a datagram, and of the table with it. -/
inductive Treated (t : FlowTable) (flow : Session.Flow) (payload : Bytes) :
    Bool → Fate → FlowTable → Prop where
  /-- It is the last of those that wait for the open session of its flow. -/
  | queued (hasSlot : Bool) {n : Nat} {m : Member} :
      Serves t flow n m → m.queue.length < t.capacity →
      Treated t flow payload hasSlot (.queued n) (t.modify n (.push payload))
  /-- As many as may already wait for the open session of its flow. -/
  | dropped (hasSlot : Bool) {n : Nat} {m : Member} :
      Serves t flow n m → m.queue.length = t.capacity →
      Treated t flow payload hasSlot .dropped { t with dropped := t.dropped + 1 }
  /-- It is the first of a fresh session of its flow, which had no open one. -/
  | opened : Unserved t flow →
      Treated t flow payload true (.opened t.members.length) (t.opening flow payload)
  /-- There is no slot for a session, and none that is open. -/
  | refused : Unserved t flow →
      Treated t flow payload false .refused { t.forget flow with refused := t.refused + 1 }

theorem opening_forget (t : FlowTable) (flow : Session.Flow) (first : Bytes) :
    (t.forget flow).opening flow first = t.opening flow first := by
  simp [FlowTable.opening, enroll, FlowTable.forget]

/-- A datagram without an open session is treated as if its flow had not been registered. -/
theorem Sound.dispatch_of_unserved (sound : Sound t) (dead : Unserved t flow) (payload : Bytes)
    (hasSlot : Bool) :
    t.dispatch flow payload hasSlot = (t.forget flow).openSession flow payload hasSlot := by
  unfold dispatch
  cases registered : t.registered? flow with
  | none => rw [forget_of_registered?_none registered]
  | some n =>
    obtain ⟨m, place, carries⟩ := sound.own flow n registered
    have closed := dead m (List.mem_of_getElem? place) carries
    simp [place, closed]

theorem Serves.dispatch (serves : Serves t flow n m) (payload : Bytes) (hasSlot : Bool) :
    t.dispatch flow payload hasSlot =
      if m.queue.length < t.capacity then (.queued n, t.modify n (.push payload))
      else (.dropped, { t with dropped := t.dropped + 1 }) := by
  obtain ⟨registered, place, _, isOpen⟩ := serves
  simp [FlowTable.dispatch, registered, place, isOpen]

/-- Something becomes of every datagram. -/
theorem Sound.treated_dispatch (sound : Sound t) (flow : Session.Flow) (payload : Bytes)
    (hasSlot : Bool) : Treated t flow payload hasSlot (t.dispatch flow payload hasSlot).1
      (t.dispatch flow payload hasSlot).2 := by
  rcases sound.serves_or_unserved flow with ⟨n, m, serves⟩ | dead
  · rw [serves.dispatch]
    split
    · rename_i room
      exact .queued hasSlot serves room
    · rename_i full
      have fits := sound.few m (List.mem_of_getElem? serves.2.1)
      exact .dropped hasSlot serves (by omega)
  · rw [sound.dispatch_of_unserved dead]
    cases hasSlot with
    | true =>
      have opened : Treated t flow payload true (.opened t.members.length)
          (t.opening flow payload) := .opened dead
      rw [← opening_forget] at opened
      exact opened
    | false => exact .refused dead

/-- **The fate of a datagram.** Of every datagram one thing becomes, and only one. -/
theorem Sound.treated_iff (sound : Sound t) :
    Treated t flow payload hasSlot fate t' ↔ t.dispatch flow payload hasSlot = (fate, t') := by
  constructor
  · intro treated
    cases treated with
    | queued _ serves room => rw [serves.dispatch, if_pos room]
    | dropped _ serves full => rw [serves.dispatch, if_neg (by omega)]
    | opened dead =>
      rw [sound.dispatch_of_unserved dead, ← opening_forget]
      rfl
    | refused dead =>
      rw [sound.dispatch_of_unserved dead]
      rfl
  · intro dispatched
    have treated := sound.treated_dispatch flow payload hasSlot
    rwa [dispatched] at treated

theorem Treated.capacity (treated : Treated t flow payload hasSlot fate t') :
    t'.capacity = t.capacity := by
  cases treated <;> rfl

theorem Treated.sound (treated : Treated t flow payload hasSlot fate t') (sound : Sound t) :
    Sound t' := by
  cases treated with
  | queued _ serves room =>
    refine sound.change (fun _ => id) fun m' place => ?_
    obtain ⟨_, here, _, _⟩ := serves
    rw [here] at place
    cases place
    have before := sound.tame t.notices here
    refine ⟨rfl, ?_, id, before.hasEnded⟩
    simp only [Member.push, List.length_append, List.length_singleton]
    omega
  | dropped => exact ⟨sound.roomy, sound.few, sound.own, sound.listed, sound.closed, sound.noticed⟩
  | opened dead => exact sound.opening dead payload
  | refused dead =>
    have kept := sound.forget dead
    exact ⟨kept.roomy, kept.few, kept.own, kept.listed, kept.closed, kept.noticed⟩

/-! ### Notices -/

/-- A notice changes nothing about a flow with an open session, and any other is not registered after
it. -/
theorem Sound.reap_cases (sound : Sound t) (flow : Session.Flow) :
    (∃ n m, Serves t flow n m ∧ t.reap flow = t)
      ∨ (Unserved t flow ∧ t.reap flow = t.forget flow) := by
  rcases sound.serves_or_unserved flow with ⟨n, m, serves⟩ | dead
  · refine .inl ⟨n, m, serves, ?_⟩
    obtain ⟨registered, place, _, isOpen⟩ := serves
    simp [reap, session?, registered, place, isOpen]
  · refine .inr ⟨dead, ?_⟩
    cases registered : t.registered? flow with
    | none => simp [reap, session?, registered, forget_of_registered?_none registered]
    | some n =>
      obtain ⟨m, place, carries⟩ := sound.own flow n registered
      have closed := dead m (List.mem_of_getElem? place) carries
      simp [reap, session?, registered, place, closed]

theorem Sound.reap (sound : Sound t) (flow : Session.Flow) : Sound (t.reap flow) := by
  rcases sound.reap_cases flow with ⟨_, _, _, same⟩ | ⟨dead, forgotten⟩
  · rw [same]
    exact sound
  · rw [forgotten]
    exact sound.forget dead

/-- After a notice the session that its flow is registered with, if any, has not ended. -/
theorem Sound.not_hasEnded_reap (sound : Sound t)
    (registered : (t.reap flow).registered? flow = some n)
    (place : (t.reap flow).members[n]? = some m) : m.hasEnded = false := by
  rcases sound.reap_cases flow with ⟨n', m', serves, same⟩ | ⟨_, forgotten⟩
  · rw [same] at registered place
    obtain ⟨registered', place', _, isOpen⟩ := serves
    rw [registered] at registered'
    cases registered'
    rw [place] at place'
    cases place'
    cases ended : m.hasEnded with
    | false => rfl
    | true =>
      rw [sound.closed m (List.mem_of_getElem? place) ended] at isOpen
      cases isOpen
  · rw [forgotten, registered?_forget_self] at registered
    cases registered

theorem reapNext_eq {notices : List Session.Flow} (next : t.notices = flow :: notices) :
    t.reapNext = { t.reap flow with notices } := by
  have same : session? { t with notices } flow = t.session? flow := rfl
  rw [reapNext, next]
  simp only [FlowTable.reap, same]
  cases t.session? flow with
  | none => rfl
  | some m => by_cases isOpen : m.isOpen = true <;> simp [isOpen, FlowTable.forget]

theorem Sound.reapNext (sound : Sound t) : Sound t.reapNext := by
  cases next : t.notices with
  | nil =>
    rw [FlowTable.reapNext, next]
    exact sound
  | cons flow notices =>
    rw [reapNext_eq next]
    have after := sound.reap flow
    have same : (t.reap flow).notices = flow :: notices := by
      rcases sound.reap_cases flow with ⟨_, _, _, same⟩ | ⟨_, forgotten⟩
      · rw [same, next]
      · rw [forgotten]
        exact next
    refine ⟨after.roomy, after.few, after.own, after.listed, after.closed, ?_⟩
    intro other n m registered place ended
    -- the flow whose notice this was has no ended session any more, so the others' notices remain
    have differs : other ≠ flow := by
      rintro rfl
      rw [sound.not_hasEnded_reap registered place] at ended
      cases ended
    have underWay := after.noticed other n m registered place ended
    rw [same] at underWay
    exact (List.mem_cons.mp underWay).resolve_left differs

theorem Serves.registered?_reap (serves : Serves t flow n m) (noticed : Session.Flow) :
    (t.reap noticed).registered? flow = some n := by
  obtain ⟨registered, place, _, isOpen⟩ := serves
  have found : t.session? flow = some m := by simp [session?, registered, place]
  exact (registered?_reap_of_isOpen found isOpen noticed).trans registered

/-- **Live flows.** The notice that comes next does not remove a flow whose session is open. -/
theorem Serves.registered?_step_reap (serves : Serves t flow n m) :
    (t.step .reap).registered? flow = some n := by
  show t.reapNext.registered? flow = some n
  cases next : t.notices with
  | nil =>
    rw [FlowTable.reapNext, next]
    exact serves.1
  | cons noticed notices =>
    rw [reapNext_eq next]
    exact serves.registered?_reap noticed

/-! ### Histories -/

theorem Sound.finish (sound : Sound t) (n : Nat) : Sound (t.finish n) := by
  unfold FlowTable.finish
  split
  · rename_i m place
    split
    · exact sound
    · rename_i running
      obtain ⟨closed, _⟩ : m.isOpen = false ∧ m.hasEnded = false := by simpa using running
      refine sound.change (fun flow before => List.mem_append_left _ before) fun m' here => ?_
      rw [place] at here
      cases here
      exact ⟨rfl, sound.few m (List.mem_of_getElem? place), id,
        fun _ => ⟨closed, .inr (List.mem_append_right _ List.mem_cons_self)⟩⟩
  · exact sound

theorem Sound.step (sound : Sound t) (e : Event) : Sound (t.step e) := by
  cases e with
  | datagram flow payload hasSlot =>
    exact (sound.treated_dispatch flow payload hasSlot).sound sound
  | take n =>
    refine sound.change (fun _ => id) fun m place => ?_
    have before := sound.tame t.notices place
    unfold Member.takeNext
    split
    · rename_i isOpen waiting
      refine ⟨rfl, ?_, id, before.hasEnded⟩
      have fits := before.few
      rw [waiting, List.length_cons] at fits
      exact Nat.le_of_succ_le fits
    · exact before
  | close n =>
    refine sound.change (fun _ => id) fun m place => ?_
    have before := sound.tame t.notices place
    exact ⟨rfl, before.few, nofun, fun ended => ⟨rfl, (before.hasEnded ended).2⟩⟩
  | finish n => exact sound.finish n
  | reap => exact sound.reapNext

theorem Sound.capacity_step (sound : Sound t) (e : Event) : (t.step e).capacity = t.capacity := by
  cases e with
  | datagram flow payload hasSlot => exact (sound.treated_dispatch flow payload hasSlot).capacity
  | take | close => rfl
  | finish n =>
    simp only [FlowTable.step, FlowTable.finish]
    split
    · split <;> rfl
    · rfl
  | reap =>
    show t.reapNext.capacity = t.capacity
    cases next : t.notices with
    | nil => rw [FlowTable.reapNext, next]
    | cons flow notices =>
      rw [reapNext_eq next]
      rcases sound.reap_cases flow with ⟨_, _, _, same⟩ | ⟨_, forgotten⟩
      · rw [same]
      · rw [forgotten]
        rfl

theorem Sound.capacity_run (sound : Sound t) (history : List Event) :
    (t.run history).capacity = t.capacity := by
  induction history generalizing t with
  | nil => rfl
  | cons e later ih => exact (ih (sound.step e)).trans (sound.capacity_step e)

theorem run_concat (t : FlowTable) (history : List Event) (e : Event) :
    t.run (history ++ [e]) = (t.run history).step e := by
  simp [run]

theorem sound_run (sound : Sound t) (history : List Event) : Sound (t.run history) := by
  induction history generalizing t with
  | nil => exact sound
  | cons e later ih => exact ih (sound.step e)

/-- **Quiet moments.** When no notice is under way and every closed session has ended, a flow is
registered exactly with its open session. -/
theorem Sound.registered?_iff_of_quiet (sound : Sound t) (noNotice : t.notices = [])
    (ended : ∀ m ∈ t.members, m.isOpen = false → m.hasEnded = true) :
    t.registered? flow = some n ↔
      ∃ m, t.members[n]? = some m ∧ m.flow = flow ∧ m.isOpen = true := by
  constructor
  · intro registered
    obtain ⟨m, place, carries⟩ := sound.own flow n registered
    refine ⟨m, place, carries, ?_⟩
    cases isOpen : m.isOpen with
    | true => rfl
    | false =>
      have done := ended m (List.mem_of_getElem? place) isOpen
      have underWay := sound.noticed flow n m registered place done
      rw [noNotice] at underWay
      cases underWay
  · rintro ⟨m, place, rfl, isOpen⟩
    exact sound.listed n m place isOpen

end Intercept.FlowTable
