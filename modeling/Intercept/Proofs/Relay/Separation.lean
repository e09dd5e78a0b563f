import Intercept.Proofs.Relay.Safety
import Intercept.Proofs.Relay.Script

/-!
# The directions of a relay are separate

A pipe that is alone is polled whenever it says so and when one of its waits is over. In a relay it
is polled more often, for the sake of the other pipe, and the clock stops at more times; but a pipe
that stalls stays as it is until its own time has come. So a direction does in a relay what it does
alone, as long as the other one does not fail: the other one may be slow, close early or hang.

## Main statements

* `Round.Shows`: a round as one of the directions sees it.
* `account_run`: a direction does in a relay what it does alone.
* `directions_are_separate`: the two-run consequence.
-/

namespace Intercept.Relay

/-- What a pipe leaves to be seen from outside. -/
structure Account where
  fault? : Option IoFault
  written : List Bytes
  flushes : Nat
  shutdowns : Nat
  /-- The data that has not been read. -/
  unread : Bytes
deriving DecidableEq

namespace Pipe

variable {size now time : Nat} {horizon : Stream.Limit} {p q : Pipe} {soon : Bool}

def account (p : Pipe) (fault? : Option IoFault) : Account :=
  ⟨fault?, p.sink.written, p.sink.flushes, p.sink.shutdowns, Stream.dataOf p.source⟩

theorem account_awaken (time : Nat) (p : Pipe) (fault? : Option IoFault) :
    (p.awaken time).account fault? = p.account fault? := by
  simp only [account, awaken, dataOf_wake]

/-! ### Polling again -/

theorem stage_of_poll_finished (polled : p.poll size now = .finished q) : q.stage = .done := by
  fun_induction poll size now p with
  | case1 p r stepped ih => exact ih polled
  | case3 p r stepped =>
    cases polled
    exact stage_of_finished stepped
  | case2 p r s stepped | case4 p r f stepped => cases polled

theorem poll_of_done (size now : Nat) (done : p.stage = .done) :
    p.poll size now = .finished p := by
  have stepped : p.step (max size 1) now = .finished p := by rw [step, done]
  rw [poll]
  split
  all_goals rename_i came; rw [stepped] at came; cases came
  rfl

theorem stalls_of_poll (polled : p.poll size now = .waiting q false) : q.Stalls now := by
  fun_induction poll size now p with
  | case1 p r stepped ih => exact ih polled
  | case2 p r s stepped =>
    cases polled
    obtain ⟨rfl, stalls⟩ := stalls_of_step stepped
    exact stalls
  | case3 p r stepped | case4 p r f stepped => cases polled

theorem Stalls.poll (stalls : p.Stalls now) (size : Nat) :
    p.poll size now = .waiting p false := by
  have stepped := @Stalls.step (max size 1) now p stalls
  rw [Pipe.poll]
  split
  all_goals rename_i came; rw [stepped] at came; cases came
  rfl

/-- A poll of a pipe ahead of which lies no fault. -/
theorem faultless_poll (faultless : Faultless p.source p.sink) :
    (∃ q, p.poll size now = .finished q ∧ Faultless q.source q.sink)
      ∨ ∃ q soon, p.poll size now = .waiting q soon ∧ Faultless q.source q.sink := by
  fun_induction poll size now p with
  | case1 p r stepped ih =>
    have kept := @faultless_step (max size 1) now p faultless
    rw [stepped] at kept
    exact ih kept
  | case2 p r soon stepped =>
    have kept := @faultless_step (max size 1) now p faultless
    rw [stepped] at kept
    exact .inr ⟨r, soon, rfl, kept⟩
  | case3 p r stepped =>
    have kept := @faultless_step (max size 1) now p faultless
    rw [stepped] at kept
    exact .inl ⟨r, rfl, kept⟩
  | case4 p r f stepped =>
    have kept := @faultless_step (max size 1) now p faultless
    rw [stepped] at kept
    exact kept.elim

theorem faultless_awaken (time : Nat) (faultless : Faultless p.source p.sink) :
    Faultless (p.awaken time).source (p.awaken time).sink where
  source e h := faultless.source e (mem_of_mem_wake h)
  writes e h := faultless.writes e (mem_of_mem_wake h)
  flush := faultless.flush
  shutdown := faultless.shutdown

theorem wake_of_lt {α : Type} {es : List (Event α)}
    (early : ∀ next, wakeTime? es = some next → time < next) : wake time es = es := by
  unfold wake
  split
  · rename_i next es
    exact if_neg (Nat.not_le.mpr (early next rfl))
  · rfl

/-- Before a wait of the pipe is over nothing wakes up. -/
theorem awaken_of_lt (before : ∀ next, p.nextWake = some next → time < next) :
    p.awaken time = p := by
  have source : wake time p.source = p.source := by
    refine wake_of_lt fun next wakes => ?_
    obtain ⟨first, notAfter, isFirst⟩ := earlier_le_left next (wakeTime? p.sink.writes)
    have := before first (by rw [nextWake, wakes]; exact isFirst)
    omega
  have writes : wake time p.sink.writes = p.sink.writes := by
    refine wake_of_lt fun next wakes => ?_
    obtain ⟨first, notAfter, isFirst⟩ := earlier_le_right (wakeTime? p.source) next
    have := before first (by rw [nextWake, wakes]; exact isFirst)
    omega
  simp only [awaken, source, writes]

/-! ### A pipe that is alone -/

/-- What comes of a pipe that is polled until it is done, fails, or has nothing to wait for before
`horizon`. -/
def alone (size : Nat) (horizon : Stream.Limit) (now : Nat) (p : Pipe) : Account :=
  match _polled : p.poll size now with
  | .failed q f => q.account (some f)
  | .finished q => q.account none
  | .waiting q true => alone size horizon now q
  | .waiting q false =>
    match _wakes : q.nextWake with
    | none => q.account none
    | some time =>
      if horizon.isBefore time then q.account none
      else alone size horizon time (q.awaken time)
termination_by p.weight
decreasing_by
  · exact (weight_poll _polled).2 rfl
  · have lighter := (weight_poll _polled).1
    have := weight_awaken_lt _wakes
    omega

theorem alone_of_failed {f : IoFault} (polled : p.poll size now = .failed q f) :
    alone size horizon now p = q.account (some f) := by
  rw [alone]
  split
  all_goals rename_i came; rw [polled] at came; cases came
  rfl

theorem alone_of_finished (polled : p.poll size now = .finished q) :
    alone size horizon now p = q.account none := by
  rw [alone]
  split
  all_goals rename_i came; rw [polled] at came; cases came
  rfl

theorem alone_of_soon (polled : p.poll size now = .waiting q true) :
    alone size horizon now p = alone size horizon now q := by
  rw [alone]
  split
  all_goals rename_i came; rw [polled] at came; cases came
  rfl

theorem alone_of_waiting (polled : p.poll size now = .waiting q false) :
    alone size horizon now p = match q.nextWake with
      | none => q.account none
      | some time =>
        if horizon.isBefore time then q.account none
        else alone size horizon time (q.awaken time) := by
  rw [alone]
  split
  all_goals rename_i came; rw [polled] at came; cases came
  split <;> rename_i wakes <;> rw [wakes]

/-- A pipe that is done stays as it is. -/
theorem alone_of_done (size : Nat) (horizon : Stream.Limit) (now : Nat) (done : p.stage = .done) :
    alone size horizon now p = p.account none :=
  alone_of_finished (poll_of_done size now done)

/-- **A pipe is not disturbed by a poll that it did not ask for**: polled again, it goes on as if it
had not been. -/
theorem alone_of_poll
    (polled : p.poll size now = .finished q ∨ p.poll size now = .waiting q soon) :
    alone size horizon now p = alone size horizon now q := by
  rcases polled with finished | waiting
  · rw [alone_of_finished finished, alone_of_done size horizon now (stage_of_poll_finished finished)]
  · cases soon with
    | true => exact alone_of_soon waiting
    | false =>
      rw [alone_of_waiting waiting, alone_of_waiting ((stalls_of_poll waiting).poll size)]

/-- **Nor by a clock that stops** at a time that is not its own. -/
theorem alone_of_awaken
    (polled : p.poll size now = .finished q ∨ p.poll size now = .waiting q false)
    (inTime : horizon.isBefore time = false)
    (notAfter : ∀ next, q.nextWake = some next → time ≤ next) :
    alone size horizon now p = alone size horizon time (q.awaken time) := by
  rcases polled with finished | waiting
  · have done : q.stage = .done := stage_of_poll_finished finished
    rw [alone_of_finished finished, alone_of_done (p := q.awaken time) size horizon time done,
      account_awaken]
  · by_cases own : q.nextWake = some time
    · rw [alone_of_waiting waiting, own]
      simp only [inTime, Bool.false_eq_true, if_false]
    · have before : ∀ next, q.nextWake = some next → time < next := by
        intro next wakes
        have := notAfter next wakes
        have : time ≠ next := fun same => own (same ▸ wakes)
        omega
      rw [awaken_of_lt before, alone_of_waiting waiting,
        alone_of_waiting (((stalls_of_poll waiting).of_lt before).poll size)]

/-- At the end of a relay a pipe that waits in vain is left as it is. -/
theorem alone_of_stuck
    (polled : p.poll size now = .finished q ∨ p.poll size now = .waiting q false)
    (late : ∀ next, q.nextWake = some next → horizon.isBefore next = true) :
    alone size horizon now p = q.account none := by
  rcases polled with finished | waiting
  · exact alone_of_finished finished
  · rw [alone_of_waiting waiting]
    cases wakes : q.nextWake with
    | none => rfl
    | some next => exact if_pos (late next wakes)

end Pipe

namespace Duplex

open Pipe (alone Polled)

variable {size : Nat} {horizon : Stream.Limit} {now : Nat} {d : Duplex}

def Direction.other : Direction → Direction
  | .up => .down
  | .down => .up

def Outcome.fault? : Outcome → Option IoFault
  | .failed f => some f
  | .finished | .hung => none

/-- What a relay leaves to be seen of one of its directions. -/
def Run.account (r : Run) (dir : Direction) : Account :=
  (r.duplex.pipe dir).account r.outcome.fault?

/-! ### Rounds -/

/-- Whether no fault lies ahead of a direction. -/
def FaultlessIn (d : Duplex) (dir : Direction) : Prop :=
  Faultless (d.pipe dir).source (d.pipe dir).sink

/-- A round as a direction sees it whose pipe was polled with this result. -/
def Round.Shows (polled : Polled) (dir : Direction) : Round → Prop
  | .failed e f => polled = .failed (e.pipe dir) f
  | .finished e => polled = .finished (e.pipe dir)
  | .waiting e soon => e.FaultlessIn dir.other ∧ ∃ again : Bool, (again = true → soon = true)
    ∧ (polled = .finished (e.pipe dir) ∨ polled = .waiting (e.pipe dir) again)

/-- If no round may follow at once, the pipe has not asked for one. -/
theorem Round.Shows.asleep {polled : Polled} {dir : Direction}
    (shows : (Round.waiting d false).Shows polled dir) : d.FaultlessIn dir.other
      ∧ (polled = .finished (d.pipe dir) ∨ polled = .waiting (d.pipe dir) false) := by
  obtain ⟨still, again, notSoon, polled⟩ := shows
  cases again with
  | true => cases notSoon rfl
  | false => exact ⟨still, polled⟩

/-- **A round as one direction sees it**: the other one does not show. -/
theorem round_shows (size now : Nat) (dir : Direction) (faultless : d.FaultlessIn dir.other) :
    (d.round size now).Shows ((d.pipe dir).poll size now) dir := by
  cases dir with
  | up =>
    show (d.round size now).Shows (d.up.poll size now) .up
    have other := @Pipe.faultless_poll size now d.down faultless
    unfold round
    cases d.up.poll size now with
    | failed up f => rfl
    | finished up =>
      rcases other with ⟨down, polled, kept⟩ | ⟨down, soon, polled, kept⟩
      · simp only [roundDown, polled]
        rfl
      · simp only [roundDown, polled]
        exact ⟨kept, false, (fun never => by cases never), .inl rfl⟩
    | waiting up upSoon =>
      rcases other with ⟨down, polled, kept⟩ | ⟨down, soon, polled, kept⟩
      · simp only [roundDown, polled]
        exact ⟨kept, upSoon, id, .inr rfl⟩
      · simp only [roundDown, polled]
        exact ⟨kept, upSoon, fun again => by rw [again]; rfl, .inr rfl⟩
  | down =>
    show (d.round size now).Shows (d.down.poll size now) .down
    have other := @Pipe.faultless_poll size now d.up faultless
    unfold round
    rcases other with ⟨up, polled, kept⟩ | ⟨up, upSoon, polled, kept⟩
    all_goals
      rw [polled]
      dsimp only [roundDown]
      cases d.down.poll size now with
      | failed down f => rfl
      | finished down => first | rfl | exact ⟨kept, false, (fun never => by cases never), .inl rfl⟩
      | waiting down soon =>
        exact ⟨kept, soon, fun again => by rw [again, Bool.or_true], .inr rfl⟩

/-- A relay sleeps no longer than a pipe has to wait. -/
theorem nextWake_le {dir : Direction} {next : Nat} (own : (d.pipe dir).nextWake = some next) :
    ∃ first ≤ next, d.nextWake = some first := by
  cases dir with
  | up =>
    rw [nextWake, show d.up.nextWake = some next from own]
    exact Pipe.earlier_le_left next d.down.nextWake
  | down =>
    rw [nextWake, show d.down.nextWake = some next from own]
    exact Pipe.earlier_le_right d.up.nextWake next

theorem isBefore_of_le {time next : Nat} (notAfter : time ≤ next)
    (late : horizon.isBefore time = true) : horizon.isBefore next = true := by
  cases horizon with
  | none => cases late
  | some last =>
    have late : last < time := by simpa [Stream.Limit.isBefore] using late
    simpa [Stream.Limit.isBefore] using Nat.lt_of_lt_of_le late notAfter

/-! ### Relays -/

/-- **A direction does in a relay what it does alone**, if no fault lies ahead of the other one. -/
theorem account_run (size : Nat) (horizon : Stream.Limit) (now : Nat) (dir : Direction)
    (faultless : d.FaultlessIn dir.other) :
    (run size horizon now d).account dir = alone size horizon now (d.pipe dir) := by
  fun_induction run size horizon now d with
  | case1 now d e f came =>
    have shows := round_shows size now dir faultless
    rw [came] at shows
    exact (Pipe.alone_of_failed shows).symm
  | case2 now d e came =>
    have shows := round_shows size now dir faultless
    rw [came] at shows
    exact (Pipe.alone_of_finished shows).symm
  | case3 now d e came ih =>
    have shows := round_shows size now dir faultless
    rw [came] at shows
    obtain ⟨still, again, _, polled⟩ := shows
    rw [ih still, Pipe.alone_of_poll polled]
  | case4 now d e came asleep =>
    have shows := round_shows size now dir faultless
    rw [came] at shows
    obtain ⟨_, polled⟩ := shows.asleep
    refine (Pipe.alone_of_stuck polled fun next own => ?_).symm
    -- a pipe that will wake up would wake the relay
    obtain ⟨first, _, wakes⟩ := nextWake_le own
    cases asleep.symm.trans wakes
  | case5 now d e came time wakes late =>
    have shows := round_shows size now dir faultless
    rw [came] at shows
    obtain ⟨_, polled⟩ := shows.asleep
    refine (Pipe.alone_of_stuck polled fun next own => ?_).symm
    obtain ⟨first, notAfter, isFirst⟩ := nextWake_le own
    cases wakes.symm.trans isFirst
    exact isBefore_of_le notAfter late
  | case6 now d e came time wakes inTime ih =>
    have shows := round_shows size now dir faultless
    rw [came] at shows
    obtain ⟨still, polled⟩ := shows.asleep
    have later : (e.awaken time).FaultlessIn dir.other := by
      rw [FaultlessIn, pipe_awaken]
      exact Pipe.faultless_awaken time still
    rw [ih later, pipe_awaken]
    refine (Pipe.alone_of_awaken polled (Bool.eq_false_iff.mpr inTime) fun next own => ?_).symm
    obtain ⟨first, notAfter, isFirst⟩ := nextWake_le own
    cases wakes.symm.trans isFirst
    exact notAfter

/-- Two relays that have one direction in common. -/
theorem account_copy_eq (size : Nat) (horizon : Stream.Limit) (dir : Direction)
    {client₁ remote₁ client₂ remote₂ : Stream}
    (same : (start client₁ remote₁).pipe dir = (start client₂ remote₂).pipe dir)
    (faultless₁ : (start client₁ remote₁).FaultlessIn dir.other)
    (faultless₂ : (start client₂ remote₂).FaultlessIn dir.other) :
    (copy size horizon client₁ remote₁).account dir
      = (copy size horizon client₂ remote₂).account dir := by
  rw [copy, copy, account_run size horizon 0 dir faultless₁, same]
  exact (account_run size horizon 0 dir faultless₂).symm

theorem fault?_eq_some {outcome : Outcome} {f : IoFault} :
    outcome.fault? = some f ↔ outcome = .failed f := by
  cases outcome <;> simp [Outcome.fault?]

/-- Two accounts of a direction that are the same. -/
theorem eq_of_account {run₁ run₂ : Run} {dir : Direction}
    (same : run₁.account dir = run₂.account dir) :
    (run₁.duplex.pipe dir).sink.written = (run₂.duplex.pipe dir).sink.written
    ∧ (run₁.duplex.pipe dir).sink.flushes = (run₂.duplex.pipe dir).sink.flushes
    ∧ (run₁.duplex.pipe dir).sink.shutdowns = (run₂.duplex.pipe dir).sink.shutdowns
    ∧ (Stream.dataOf (run₁.duplex.pipe dir).source).length
      = (Stream.dataOf (run₂.duplex.pipe dir).source).length
    ∧ ∀ f, run₁.outcome = .failed f ↔ run₂.outcome = .failed f := by
  obtain ⟨fault, written, flushes, shutdowns, unread⟩ := Account.mk.inj same
  refine ⟨written, flushes, shutdowns, congrArg _ unread, fun f => ?_⟩
  rw [← fault?_eq_some, fault, fault?_eq_some]

/-- **The directions are separate.** Take two relays with buffers of one size. If the clients send the
same and the remote ends take it the same way, and no fault lies ahead of the way back, then the
pieces written to the remote end, its flushes and shutdowns and what is left unread of the client
are the same in both, and so is the failure if there is one: what comes back, how slowly, and
whether it ever ends make no difference. And the other way round. -/
theorem directions_are_separate (size : Nat) (horizon : Stream.Limit)
    (client₁ remote₁ client₂ remote₂ : Stream) :
    let run₁ := copy size horizon client₁ remote₁
    let run₂ := copy size horizon client₂ remote₂
    (client₁.reads = client₂.reads → remote₁.toSink = remote₂.toSink →
      Faultless remote₁.reads client₁.toSink → Faultless remote₂.reads client₂.toSink →
      run₁.duplex.remote.written = run₂.duplex.remote.written
      ∧ run₁.duplex.remote.flushes = run₂.duplex.remote.flushes
      ∧ run₁.duplex.remote.shutdowns = run₂.duplex.remote.shutdowns
      ∧ run₁.duplex.client.unread = run₂.duplex.client.unread
      ∧ ∀ f, run₁.outcome = .failed f ↔ run₂.outcome = .failed f)
    ∧ (remote₁.reads = remote₂.reads → client₁.toSink = client₂.toSink →
      Faultless client₁.reads remote₁.toSink → Faultless client₂.reads remote₂.toSink →
      run₁.duplex.client.written = run₂.duplex.client.written
      ∧ run₁.duplex.client.flushes = run₂.duplex.client.flushes
      ∧ run₁.duplex.client.shutdowns = run₂.duplex.client.shutdowns
      ∧ run₁.duplex.remote.unread = run₂.duplex.remote.unread
      ∧ ∀ f, run₁.outcome = .failed f ↔ run₂.outcome = .failed f) := by
  intro run₁ run₂
  constructor
  · intro sameReads sameSink faultless₁ faultless₂
    exact eq_of_account (account_copy_eq size horizon .up (congrArg₂ Pipe.start sameReads sameSink)
      faultless₁ faultless₂)
  · intro sameReads sameSink faultless₁ faultless₂
    exact eq_of_account (account_copy_eq size horizon .down
      (congrArg₂ Pipe.start sameReads sameSink) faultless₁ faultless₂)

/-- A client that is reset, before a remote end that never says anything and before one that answers
in pieces and closes; and a remote end that refuses to be shut down, towards a client that hangs and
towards one that says goodbye. -/
theorem reset_beside_a_hanging_answer :
    let sink : Sink :=
      { writes := [.item 1, .yield, .delay 4], flushFault := none
        shutdownFault := some (.plain .brokenPipe), written := [], flushes := 0, shutdowns := 0 }
    let willing : Sink :=
      { writes := [.delay 3, .item 2], flushFault := none, shutdownFault := none
        written := [], flushes := 0, shutdowns := 0 }
    let source : List (Event Bytes) :=
      [.item [1, 2, 3], .delay 5, .item [4], .fault (.plain .connectionReset)]
    let silent := copy 2 none ⟨willing, source⟩ ⟨sink, [.hang]⟩
    let speaking := copy 2 none ⟨willing, source⟩ ⟨sink, [.item [7, 8], .delay 1, .item [9]]⟩
    let deaf := copy 2 none ⟨sink, [.hang]⟩ ⟨willing, source⟩
    let polite := copy 2 none ⟨sink, [.yield, .item [5]]⟩ ⟨willing, source⟩
    silent.duplex.remote.written = speaking.duplex.remote.written
      ∧ (∀ f, silent.outcome = .failed f ↔ speaking.outcome = .failed f)
      ∧ deaf.duplex.client.written = polite.duplex.client.written
      ∧ (∀ f, deaf.outcome = .failed f ↔ polite.outcome = .failed f) := by
  intro sink willing source silent speaking deaf polite
  have hangs : Faultless [.hang] willing := ⟨by decide, by decide, rfl, rfl⟩
  have answers : Faultless [.item [7, 8], .delay 1, .item [9]] willing :=
    ⟨by decide, by decide, rfl, rfl⟩
  have goodbye : Faultless [.yield, .item [5]] willing := ⟨by decide, by decide, rfl, rfl⟩
  obtain ⟨toRemote, _, _, _, upFailure⟩ := (directions_are_separate 2 none ⟨willing, source⟩
    ⟨sink, [.hang]⟩ ⟨willing, source⟩ ⟨sink, [.item [7, 8], .delay 1, .item [9]]⟩).1 rfl rfl
    hangs answers
  obtain ⟨toClient, _, _, _, downFailure⟩ := (directions_are_separate 2 none ⟨sink, [.hang]⟩
    ⟨willing, source⟩ ⟨sink, [.yield, .item [5]]⟩ ⟨willing, source⟩).2 rfl rfl hangs goodbye
  exact ⟨toRemote, upFailure, toClient, downFailure⟩

end Duplex

end Intercept.Relay
