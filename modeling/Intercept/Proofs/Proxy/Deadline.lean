import Intercept.Proofs.Proxy.Conversation
import Intercept.Proofs.Stream.Deadline
import Intercept.Proxy.Negotiation

/-!
# Negotiations with a deadline

A negotiation with one deadline for all of it, next to the same negotiation without one. Their
courses are the same up to the first wait that the deadline ends, if there is one: there the one
gives up, and the other goes on to a later moment.

## Main statements

* `step_within`: one step with a deadline next to one without.
* `course_within`: a whole course with a deadline next to one without.
* `deadline_bounds_run`: what a deadline does to a negotiation.
-/

namespace Intercept

namespace Proxy

/-! ### Single transfers -/

namespace Talk

section

variable (limit : Stream.Limit) (count : Nat) (message : Bytes) (t : Talk)

theorem now_await :
    (t.await limit count).2.now = (Stream.gather limit count t.now t.stream.reads).now := by
  simp only [await]
  split <;> rfl

theorem await_expired_iff : (t.await limit count).1 = .error .expired
    ↔ (Stream.gather limit count t.now t.stream.reads).halt = some .expired := by
  simp only [await]
  split
  · rename_i whole
    simp [whole]
  · rename_i halt stopped
    simp [stopped]

theorem now_send :
    (t.send limit message).2.now = (Stream.deliver limit t.now message t.stream.writes).now := by
  simp only [send]
  split
  · rfl
  · split <;> rfl

theorem written_send : (t.send limit message).2.stream.written
    = t.stream.written ++ (Stream.deliver limit t.now message t.stream.writes).chunks := by
  simp only [send]
  split
  · rfl
  · split <;> rfl

theorem send_expired_iff : (t.send limit message).1 = .error .expired
    ↔ (Stream.deliver limit t.now message t.stream.writes).halt = some .expired := by
  simp only [send]
  split
  · rename_i halt stopped
    simp [stopped]
  · rename_i whole
    split
    · simp [whole]
    · simp [whole]

/-! Neither transfer turns the clock back or takes back what happened on the stream. -/

theorem now_le_await : t.now ≤ (t.await limit count).2.now := by
  rw [now_await]
  exact Stream.now_le_gather limit count t.now t.stream.reads

theorem now_le_send : t.now ≤ (t.send limit message).2.now := by
  rw [now_send]
  exact Stream.now_le_deliver limit t.now message t.stream.writes

theorem precedes_await : t.stream.Precedes (t.await limit count).2.stream := by
  have conserved := Stream.got_gather limit count t.now t.stream.reads
  rw [stream_await]
  exact ⟨List.prefix_rfl, _, conserved.symm⟩

theorem precedes_send : t.stream.Precedes (t.send limit message).2.stream := by
  refine ⟨?_, [], ?_⟩
  · rw [written_send]
    exact List.prefix_append _ _
  · rw [reads_send]
    rfl

end

/-! ### Transfers with a deadline -/

variable {β : Type} {d : Nat} {t : Talk}

/-- How a transfer with the deadline `d` may stand to the same transfer without one. -/
inductive Within (d : Nat) (t : Talk) (free : Except Stream.Halt β × Talk) :
    Except Stream.Halt β × Talk → Prop where
  | inTime : free.1 ≠ .error .expired → free.2.now ≤ d → Within d t free free
  | cut {timed : Except Stream.Halt β × Talk} : timed.1 = .error .expired → timed.2.now = d →
      timed.2.phase = t.phase → timed.2.stream.Precedes free.2.stream →
      free.1 = .error .expired ∨ d ≤ free.2.now → Within d t free timed

theorem await_within (ahead : t.now ≤ d) (count : Nat) :
    Within d t (t.await none count) (t.await (some d) count) := by
  have compared := Stream.gather_within ahead count t.stream.reads
  generalize timed : Stream.gather (some d) count t.now t.stream.reads = gathered at compared
  cases compared with
  | inTime unexpired soon =>
    have same : t.await (some d) count = t.await none count := by
      simp only [await, timed]
    rw [same]
    refine .inTime ?_ ?_
    · rwa [Ne, await_expired_iff]
    · rwa [now_await]
  | cut expired atDeadline front slow =>
    refine .cut ?_ ?_ (phase_await (some d) count t) ?_ ?_
    · rwa [await_expired_iff, timed]
    · rwa [now_await, timed]
    · -- what is left after the front holds the rest of what was taken without the deadline
      obtain ⟨more, taken⟩ := front
      have conserved := Stream.got_gather none count t.now t.stream.reads
      rw [← Stream.got_gather (some d) count t.now t.stream.reads, timed, ← taken,
        List.append_assoc] at conserved
      rw [stream_await, stream_await, timed]
      exact ⟨List.prefix_rfl, more, (List.append_cancel_left conserved).symm⟩
    · rwa [await_expired_iff, now_await]

theorem send_within (ahead : t.now ≤ d) (message : Bytes) :
    Within d t (t.send none message) (t.send (some d) message) := by
  have compared := Stream.deliver_within ahead message t.stream.writes
  generalize timed : Stream.deliver (some d) t.now message t.stream.writes = delivered at compared
  cases compared with
  | inTime unexpired soon =>
    have same : t.send (some d) message = t.send none message := by
      simp only [send, timed]
    rw [same]
    refine .inTime ?_ ?_
    · rwa [Ne, send_expired_iff]
    · rwa [now_send]
  | cut expired atDeadline front slow =>
    refine .cut ?_ ?_ (phase_send (some d) message t) ⟨?_, [], ?_⟩ ?_
    · rwa [send_expired_iff, timed]
    · rwa [now_send, timed]
    · rw [written_send, written_send, timed]
      exact (List.prefix_append_right_inj _).mpr front
    · rw [reads_send, reads_send]
      rfl
    · rwa [send_expired_iff, now_send]

end Talk

/-! ### Moments with a deadline -/

namespace Dialogue

variable {α β : Type} {d : Nat}

/-- Where a transfer leads: on, with what it yielded, or to the end. -/
def Moment.after (go : β → Dialogue α) (stop : Stream.Halt → Talk.Stop) :
    Except Stream.Halt β × Talk → Moment α
  | (.ok b, t) => .midway (go b) t
  | (.error halt, t) => .ended (.error (stop halt)) t

/-- Whether a moment is the end of a wait that was given up. -/
def Moment.IsExpired (m : Moment α) : Prop := ∃ t, m = .ended (.error .expired) t

/-- At a moment at which `rest` is still to be done, the deadline `d` ends a wait: with the deadline
the conversation is given up at that time, and without it, it goes on to `late`, no sooner. -/
structure Parting (d : Nat) (rest : Dialogue α) (t gaveUp : Talk) (late : Moment α) : Prop where
  ahead : t.now ≤ d
  timed : (Moment.midway rest t).next (some d) = some (.ended (.error .expired) gaveUp)
  free : (Moment.midway rest t).next none = some late
  now : gaveUp.now = d
  phase : gaveUp.phase = t.phase
  stream : gaveUp.stream.Precedes late.talk.stream
  late : late.IsExpired ∨ d ≤ late.talk.now

/-- One step with the deadline `d` next to the same step without one. -/
inductive StepWithin (d : Nat) (rest : Dialogue α) (t : Talk) : Prop where
  | inTime {m : Moment α} : (Moment.midway rest t).next none = some m →
      (Moment.midway rest t).next (some d) = some m → m.talk.now ≤ d → ¬ m.IsExpired →
      StepWithin d rest t
  | parts {gaveUp : Talk} {late : Moment α} : Parting d rest t gaveUp late → StepWithin d rest t

section

variable (limit : Stream.Limit) (stage : String) (t : Talk)

theorem next_send (message : Bytes) (rest : Dialogue α) :
    (Moment.midway (.send stage message rest) t).next limit
      = some (.after (fun _ => rest) (Talk.stopOf stage .writeZero) (t.send limit message)) := by
  simp only [Moment.next]
  split
  · rename_i t' sent
    rw [sent]
    rfl
  · rename_i halt t' unsent
    rw [unsent]
    rfl

theorem next_await (ended : IoFault) (count : Nat) (go : Bytes → Dialogue α) :
    (Moment.midway (.await stage ended count go) t).next limit
      = some (.after go (Talk.stopOf stage ended) (t.await limit count)) := by
  simp only [Moment.next]
  split
  · rename_i octets t' came
    rw [came]
    rfl
  · rename_i halt t' stopped
    rw [stopped]
    rfl

theorem talk_after (go : β → Dialogue α) (stop : Stream.Halt → Talk.Stop)
    (r : Except Stream.Halt β × Talk) : (Moment.after go stop r).talk = r.2 := by
  rcases r with ⟨result, t⟩
  cases result with
  | ok b => rfl
  | error halt => rfl

end

theorem isExpired_after {stage : String} {ended : IoFault} {go : β → Dialogue α}
    {r : Except Stream.Halt β × Talk} :
    (Moment.after go (Talk.stopOf stage ended) r).IsExpired ↔ r.1 = .error .expired := by
  rcases r with ⟨result, t⟩
  cases result with
  | ok b => simp [Moment.after, Moment.IsExpired]
  | error halt => cases halt <;> simp [Moment.after, Moment.IsExpired, Talk.stopOf]

variable {m m' : Moment α} {t : Talk} {limit : Stream.Limit}

/-- **No step turns the clock back** or takes back what happened on the stream. -/
theorem Moment.next_grows (step : m.next limit = some m') :
    m.talk.now ≤ m'.talk.now ∧ m.talk.stream.Precedes m'.talk.stream := by
  cases m with
  | ended result t => cases step
  | midway rest t =>
    cases rest with
    | done a =>
      cases step
      exact ⟨Nat.le_refl _, .refl _⟩
    | giveUp f =>
      cases step
      exact ⟨Nat.le_refl _, .refl _⟩
    | enter phase rest =>
      cases step
      exact ⟨Nat.le_refl _, .refl _⟩
    | send stage message rest =>
      rw [next_send] at step
      cases step
      rw [talk_after]
      exact ⟨t.now_le_send limit message, t.precedes_send limit message⟩
    | await stage ended count go =>
      rw [next_await] at step
      cases step
      rw [talk_after]
      exact ⟨t.now_le_await limit count, t.precedes_await limit count⟩

theorem grows_of_leads (leads : Leads (Moment.next limit) m m') :
    m.talk.now ≤ m'.talk.now ∧ m.talk.stream.Precedes m'.talk.stream := by
  induction leads with
  | refl => exact ⟨Nat.le_refl _, .refl _⟩
  | tail _ step ih =>
    obtain ⟨later, more⟩ := Moment.next_grows step
    exact ⟨Nat.le_trans ih.1 later, ih.2.trans more⟩

/-- A transfer with a deadline and the same one without lead to the same moment, or part. -/
theorem StepWithin.of_transfer {stage : String} {ended : IoFault} {go : β → Dialogue α}
    {rest : Dialogue α} {free timed : Except Stream.Halt β × Talk} (ahead : t.now ≤ d)
    (freely : (Moment.midway rest t).next none
      = some (.after go (Talk.stopOf stage ended) free))
    (timely : (Moment.midway rest t).next (some d)
      = some (.after go (Talk.stopOf stage ended) timed))
    (within : Talk.Within d t free timed) : StepWithin d rest t := by
  cases within with
  | inTime unexpired soon =>
    refine .inTime freely timely ?_ ?_
    · rwa [talk_after]
    · rwa [isExpired_after]
  | cut expired atDeadline phase front slow =>
    rcases timed with ⟨result, gaveUp⟩
    obtain rfl : result = .error .expired := expired
    refine .parts ⟨ahead, timely, freely, atDeadline, phase, ?_, ?_⟩
    · rwa [talk_after]
    · rwa [isExpired_after, talk_after]

/-- **One step with a deadline** is the same step without one and is done in time, or the courses
part. -/
theorem step_within (ahead : t.now ≤ d) (rest : Dialogue α) : StepWithin d rest t := by
  cases rest with
  | done a => exact .inTime rfl rfl ahead (by simp [Moment.IsExpired])
  | giveUp f => exact .inTime rfl rfl ahead (by simp [Moment.IsExpired])
  | enter phase rest => exact .inTime rfl rfl ahead (by simp [Moment.IsExpired])
  | send stage message rest =>
    exact .of_transfer ahead (next_send _ _ _ _ _) (next_send _ _ _ _ _)
      (Talk.send_within ahead message)
  | await stage ended count go =>
    exact .of_transfer ahead (next_await _ _ _ _ _ _) (next_await _ _ _ _ _ _)
      (Talk.await_within ahead count)

/-- **A whole course with a deadline** is the same course without one and ends in time, or the
courses part at a moment of both. -/
theorem course_within {last : Moment α} (toEnd : Leads (Moment.next (some d)) m last)
    (ahead : m.talk.now ≤ d) (unexpired : ¬ m.IsExpired) :
    (Leads (Moment.next none) m last ∧ last.talk.now ≤ d ∧ ¬ last.IsExpired)
      ∨ ∃ rest t gaveUp late, Leads (Moment.next none) m (.midway rest t)
        ∧ Leads (Moment.next (some d)) m (.midway rest t) ∧ Parting d rest t gaveUp late := by
  -- along the course with the deadline, for as long as the other one follows it
  induction toEnd using Relation.ReflTransGen.head_induction_on with
  | refl => exact .inl ⟨.refl, ahead, unexpired⟩
  | @head m m' step later ih =>
    cases m with
    | ended result t => cases step
    | midway rest t =>
      have ahead : t.now ≤ d := ahead
      cases step_within ahead rest with
      | inTime freely timely soon fair =>
        rw [timely] at step
        cases step
        rcases ih soon fair with ⟨follows, inTime⟩ | ⟨rest', t', gaveUp, late, free, timed, parting⟩
        · exact .inl ⟨.step freely follows, inTime⟩
        · exact .inr ⟨rest', t', gaveUp, late, .step freely free, .step timely timed, parting⟩
      | @parts gaveUp late parting => exact .inr ⟨rest, t, gaveUp, late, .refl, .refl, parting⟩

theorem perform_eq_of_leads {rest : Dialogue α} {result : Except Talk.Stop α} {begun : Talk}
    (leads : Leads (Moment.next limit) (.midway rest begun) (.ended result t)) :
    rest.perform limit begun = (result, t) := by
  have same := Leads.eq_of_last rfl (leads.to_end (leads_perform limit rest begun) rfl)
  injection same with first second
  exact Prod.ext first second

/-- Without the deadline, a performance that parts from the one with it is given up, or ends no
sooner; and it goes on from what happened on the stream by then. -/
theorem Parting.perform_free {rest first : Dialogue α} {begun gaveUp : Talk} {late : Moment α}
    (parting : Parting d rest t gaveUp late)
    (free : Leads (Moment.next none) (.midway first begun) (.midway rest t)) :
    ((first.perform none begun).1 = .error .expired ∨ d ≤ (first.perform none begun).2.now)
      ∧ gaveUp.stream.Precedes (first.perform none begun).2.stream := by
  have toLate := free.trans (.step parting.free .refl)
  have toEnd := toLate.to_end (leads_perform none first begun) rfl
  obtain ⟨later, more⟩ := grows_of_leads toEnd
  refine ⟨?_, parting.stream.trans more⟩
  rcases parting.late with expired | slow
  · obtain ⟨u, rfl⟩ := expired
    rw [perform_eq_of_leads toLate]
    exact .inl rfl
  · exact .inr (Nat.le_trans slow later)

end Dialogue

/-! ### Runs with a deadline -/

namespace Negotiator

open Dialogue

variable {c : Credential} {command : Command} {target : Address} {now d : Nat} {stream : Stream}
  {deadline : Stream.Limit} {result : Except Talk.Stop (Option Address)} {t : Talk}

/-- What is made of the end of a conversation that ended in the given phase. -/
def outcomeOf (deadline : Stream.Limit) (phase : Phase) :
    Except Talk.Stop (Option Address) → Outcome
  | .ok bound => .ok bound
  | .error (.failure f) => .failed f
  | .error .expired => match deadline with
    | some _ => .failed (.timeout phase)
    | none => .hung

/-- The phase in which a negotiator is left. -/
def phaseAfter (deadline : Stream.Limit) (phase : Phase) :
    Except Talk.Stop (Option Address) → Phase
  | .ok _ => .established
  | .error (.failure _) => .failed
  | .error .expired => match deadline with
    | some _ => .failed
    | none => phase

theorem run_eq
    (performed : (negotiation c command target).perform deadline ⟨.init, stream, now⟩ = (result, t)) :
    (fresh c deadline).run none command target now stream
      = ⟨outcomeOf deadline t.phase result, ⟨c, deadline, phaseAfter deadline t.phase result⟩,
        t.stream, t.now⟩ := by
  cases deadline with
  | none =>
    simp only [run, fresh, earlier, isBounded, performed, ne_eq, not_true_eq_false, if_false]
    rcases result with ⟨f | _⟩ | bound
    · rfl
    · rfl
    · rfl
  | some d =>
    simp only [run, fresh, earlier, isBounded, performed, ne_eq, not_true_eq_false, if_false]
    rcases result with ⟨f | _⟩ | bound
    · rfl
    · rfl
    · rfl

/-- If the conversation is not given up, it does not matter whether there was a deadline. -/
theorem run_of_unexpired (unexpired : result ≠ .error .expired)
    (timely : (negotiation c command target).perform deadline ⟨.init, stream, now⟩ = (result, t))
    (freely : (negotiation c command target).perform none ⟨.init, stream, now⟩ = (result, t)) :
    let free := (fresh c none).run none command target now stream
    let timed := (fresh c deadline).run none command target now stream
    free.outcome ≠ .hung ∧ free.now = t.now
      ∧ timed = { free with negotiator := ⟨c, deadline, free.negotiator.phase⟩ } := by
  rw [run_eq timely, run_eq freely]
  rcases result with ⟨f | _⟩ | bound
  · exact ⟨Outcome.noConfusion, rfl, rfl⟩
  · exact absurd rfl unexpired
  · exact ⟨Outcome.noConfusion, rfl, rfl⟩

/-- If the conversation parts from the one without the deadline, it times out where it parts, and
the other one is not done before the deadline. -/
theorem run_of_parting {rest : Dialogue (Option Address)} {gaveUp : Talk}
    {late : Moment (Option Address)} (parting : Parting d rest t gaveUp late)
    (timely : Leads (Moment.next (some d))
      (.midway (negotiation c command target) ⟨.init, stream, now⟩) (.midway rest t))
    (freely : Leads (Moment.next none)
      (.midway (negotiation c command target) ⟨.init, stream, now⟩) (.midway rest t)) :
    let free := (fresh c none).run none command target now stream
    let timed := (fresh c (some d)).run none command target now stream
    timed = ⟨.failed (.timeout t.phase), ⟨c, some d, .failed⟩, gaveUp.stream, d⟩
      ∧ (free.outcome = .hung ∨ d ≤ free.now) ∧ gaveUp.stream.Precedes free.stream := by
  have ended := perform_eq_of_leads (timely.trans (.step parting.timed .refl))
  obtain ⟨slow, more⟩ := parting.perform_free freely
  rw [run_eq ended, run_eq (Prod.eta _).symm, ← parting.phase, parting.now]
  refine ⟨rfl, ?_, more⟩
  rcases slow with expired | late
  · rw [expired]
    exact .inl rfl
  · exact .inr late

/-- **A deadline bounds a negotiation.** With a deadline that has not passed, it ends by then. If it
ends sooner without the deadline, it is the same negotiation with it. If it would end later or never,
it fails at the deadline, for the phase it was in; it has then written a front of what it would
write, and read a front of what it would read. -/
theorem deadline_bounds_run (c : Credential) (command : Command) (target : Address) {now d : Nat}
    (ahead : now ≤ d) (stream : Stream) :
    let begun := Moment.midway (negotiation c command target) ⟨.init, stream, now⟩
    let free := (fresh c none).run none command target now stream
    let timed := (fresh c (some d)).run none command target now stream
    timed.outcome ≠ .hung ∧ timed.now ≤ d
    ∧ (free.outcome ≠ .hung ∧ free.now < d →
      timed.outcome = free.outcome ∧ timed.negotiator.phase = free.negotiator.phase
        ∧ timed.stream = free.stream ∧ timed.now = free.now)
    ∧ (free.outcome = .hung ∨ d < free.now →
      (∃ rest t gaveUp late, Leads (Moment.next none) begun (.midway rest t)
        ∧ Leads (Moment.next (some d)) begun (.midway rest t) ∧ Parting d rest t gaveUp late
        ∧ timed.outcome = .failed (.timeout t.phase) ∧ timed.stream = gaveUp.stream)
      ∧ timed.now = d ∧ timed.negotiator.phase = .failed
      ∧ stream.Precedes timed.stream ∧ timed.stream.Precedes free.stream) := by
  intro begun free timed
  have toEnd := leads_perform (some d) (negotiation c command target) ⟨.init, stream, now⟩
  rcases course_within toEnd ahead (by simp [Moment.IsExpired]) with same | parted
  · -- without the deadline the conversation takes the same course
    obtain ⟨follows, soon, unexpired⟩ := same
    have finished : ((negotiation c command target).perform (some d) ⟨.init, stream, now⟩).1
        ≠ .error .expired := by
      intro expired
      exact unexpired ⟨_, by rw [expired]⟩
    obtain ⟨ends, freeNow, sameRun⟩ := run_of_unexpired finished rfl (perform_eq_of_leads follows)
    have soon : free.now ≤ d := by
      rw [freeNow]
      exact soon
    rw [show timed = _ from sameRun]
    refine ⟨ends, soon, fun _ => ⟨rfl, rfl, rfl, rfl⟩, fun slow => ?_⟩
    rcases slow with hangs | late
    · exact absurd hangs ends
    · exact absurd soon (Nat.not_le_of_lt late)
  · -- the deadline ends a wait that the other conversation sits out
    obtain ⟨rest, t, gaveUp, late, freely, timely, parting⟩ := parted
    obtain ⟨timedOut, slow, more⟩ := run_of_parting parting timely freely
    have grown : stream.Precedes gaveUp.stream := by
      have toGaveUp := timely.trans (.step parting.timed .refl)
      exact (grows_of_leads toGaveUp).2
    rw [show timed = _ from timedOut]
    refine ⟨Outcome.noConfusion, Nat.le_refl d, fun quick => ?_, fun _ => ⟨?_, rfl, rfl, grown, more⟩⟩
    · obtain ⟨ends, soon⟩ := quick
      rcases slow with hangs | late
      · exact absurd hangs ends
      · exact absurd late (Nat.not_le_of_lt soon)
    · exact ⟨rest, t, gaveUp, late, freely, timely, parting, rfl, rfl⟩

/-- A proxy that pauses for ten milliseconds within its selection of a method: a client with a
deadline after four has given up by then, and for one with a deadline after thirteen nothing has
changed. -/
theorem pause_against_deadlines :
    let credential : Credential := ⟨"", ""⟩
    let stream : Stream :=
      { reads := [.yield, .item [5], .delay 10, .item [0, 5, 0, 0, 1], .item [1, 2, 3, 4, 0, 80, 99]]
        writes := [.item 1, .delay 2, .item 9], flushFault := none, shutdownFault := none
        written := [], flushes := 0, shutdowns := 0 }
    let run := fun deadline =>
      (fresh credential deadline).run none .connect (.v4 ⟨1, 2, 3, 4⟩ 80) 0 stream
    (run none).outcome = .ok none ∧ (run none).now = 12
      ∧ (run (some 4)).now = 4 ∧ (∃ phase, (run (some 4)).outcome = .failed (.timeout phase))
      ∧ (run (some 4)).stream.Precedes (run none).stream
      ∧ (run (some 13)).outcome = .ok none ∧ (run (some 13)).stream = (run none).stream := by
  intro credential stream run
  have outcome : (run none).outcome = .ok none := by decide
  have ends : (run none).now = 12 := by decide
  have tooLate : 4 < (run none).now := by omega
  have soon : (run none).outcome ≠ .hung ∧ (run none).now < 13 := by
    refine ⟨?_, by omega⟩
    rw [outcome]
    exact Outcome.noConfusion
  obtain ⟨_, _, _, cuts⟩ :=
    deadline_bounds_run credential .connect (.v4 ⟨1, 2, 3, 4⟩ 80) (Nat.zero_le 4) stream
  obtain ⟨⟨_, t, _, _, _, _, _, timedOut, _⟩, atDeadline, _, _, front⟩ := cuts (.inr tooLate)
  obtain ⟨_, _, keeps, _⟩ :=
    deadline_bounds_run credential .connect (.v4 ⟨1, 2, 3, 4⟩ 80) (Nat.zero_le 13) stream
  obtain ⟨same, _, sameStream, _⟩ := keeps soon
  exact ⟨outcome, ends, atDeadline, ⟨t.phase, timedOut⟩, front, same.trans outcome, sameStream⟩

end Negotiator

end Proxy

end Intercept
