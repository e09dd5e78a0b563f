import Intercept.Proofs.Proxy.Answer
import Intercept.Proofs.Proxy.Deadline

/-!
# One negotiator for many streams

A negotiator may be used again and again, each time on another stream, and any use may be abandoned
while it waits. Only in its first phase does it touch a stream. A use that comes to an end leaves it
established or failed, for good. A use that is abandoned leaves it in its first phase only as long
as the greeting has not been written whole; so no negotiation that has begun is ever taken up again
on another stream.

## Main statements

* `Dialogue.Enters.phase_perform`: a conversation ends in a phase that it enters.
* `exists_rest`: once the greeting is out, no first phase and no last one is entered.
* `abandoned_of_expired`: how far a conversation has got that is given up.
* `ending_run`: what a first use may come to.
* `after_of_used`: a used negotiator stays as it is.
* `single_use`: what each of any number of uses comes to.
-/

namespace Intercept.Proxy

/-- Only who asked for a relay learns an address. -/
theorem Command.Learns.isSome_iff {command : Command} {named bound : Option Address}
    (learns : command.Learns named bound) : bound.isSome ↔ command = .udpAssociate := by
  cases command with
  | connect =>
    cases learns
    simp
  | udpAssociate =>
    obtain ⟨rfl, isText⟩ := learns
    simp [isText]

/-- Whether a negotiation has begun and is not over. -/
structure Phase.IsUnderway (p : Phase) : Prop where
  begun : p ≠ .init
  notOver : p.isTerminal = false

/-- A message that was given up was not taken whole. -/
theorem Talk.output_of_expired {limit : Stream.Limit} {message : Bytes} {t : Talk}
    (expired : (t.send limit message).1 = .error .expired) :
    ∃ part, part <+: message ∧ part.length < message.length
      ∧ (t.send limit message).2.stream.output = t.stream.output ++ part := by
  have stopped := (t.send_expired_iff limit message).mp expired
  obtain ⟨rest, taken⟩ := Stream.chunks_deliver limit t.now message t.stream.writes
  refine ⟨_, ⟨rest, taken.symm⟩, Stream.deliver_stopped stopped, ?_⟩
  rw [Sink.output, Talk.written_send, List.flatten_append]
  rfl

theorem Talk.flushes_await (t : Talk) (limit : Stream.Limit) (count : Nat) :
    (t.await limit count).2.stream.flushes = t.stream.flushes := by
  rw [stream_await]

theorem Talk.flushes_send_le (t : Talk) (limit : Stream.Limit) (message : Bytes) :
    t.stream.flushes ≤ (t.send limit message).2.stream.flushes := by
  simp only [send]
  split
  · exact Nat.le_refl _
  · split <;> exact Nat.le_succ _

/-! ### The phases of a conversation -/

namespace Dialogue

variable {α β : Type} {allowed : Phase → Prop}

/-- No flush is taken back. -/
theorem flushes_le_perform (limit : Stream.Limit) (d : Dialogue α) (t : Talk) :
    t.stream.flushes ≤ (d.perform limit t).2.stream.flushes := by
  induction d generalizing t with
  | done a => exact Nat.le_refl _
  | giveUp f => exact Nat.le_refl _
  | enter phase next ih => exact ih { t with phase := phase }
  | send stage message next ih =>
    have more := t.flushes_send_le limit message
    simp only [perform]
    split <;> rename_i sent <;> rw [sent] at more
    · exact Nat.le_trans more (ih _)
    · exact more
  | await stage ended count next ih =>
    have same := t.flushes_await limit count
    simp only [perform]
    split <;> rename_i came <;> rw [came] at same
    · exact Nat.le_trans (Nat.le_of_eq same.symm) (ih _ _)
    · exact Nat.le_of_eq same.symm

/-- Whether all phases that a dialogue enters are among those allowed. -/
def Enters (allowed : Phase → Prop) : Dialogue α → Prop
  | .done _ | .giveUp _ => True
  | .enter phase next => allowed phase ∧ next.Enters allowed
  | .send _ _ next => next.Enters allowed
  | .await _ _ _ next => ∀ octets, (next octets).Enters allowed

theorem Enters.bind {d : Dialogue α} {rest : α → Dialogue β} (first : d.Enters allowed)
    (later : ∀ a, (rest a).Enters allowed) : (d >>= rest).Enters allowed := by
  rw [bind_eq]
  induction d with
  | done a => exact later a
  | giveUp f => trivial
  | enter phase next ih => exact ⟨first.1, ih first.2⟩
  | send stage message next ih => exact ih first
  | await stage ended count next ih => exact fun octets => ih octets (first octets)

theorem Enters.ofExcept (made : Except Failure.Negotiation α) : (ofExcept made).Enters allowed := by
  cases made <;> trivial

/-- **Phases.** Whatever a conversation comes to, it is left in a phase that it entered, or in the
one in which it began. -/
theorem Enters.phase_perform {d : Dialogue α} {t : Talk} (enters : d.Enters allowed)
    (limit : Stream.Limit) (begun : allowed t.phase) : allowed (d.perform limit t).2.phase := by
  induction d generalizing t with
  | done a => exact begun
  | giveUp f => exact begun
  | enter phase next ih => exact ih enters.2 enters.1
  | send stage message next ih =>
    have same := t.phase_send limit message
    simp only [perform]
    split <;> rename_i sent <;> rw [sent] at same
    · exact ih enters (same ▸ begun)
    · exact same ▸ begun
  | await stage ended count next ih =>
    have same := t.phase_await limit count
    simp only [perform]
    split <;> rename_i came <;> rw [came] at same
    · exact ih _ (enters _) (same ▸ begun)
    · exact same ▸ begun

theorem enters_hostLength (form : Address.Form) {stated : Dialogue UInt8}
    (enters : stated.Enters allowed) : (hostLength form stated).Enters allowed := by
  unfold hostLength
  split
  · trivial
  · exact enters.bind fun _ => trivial

theorem enters_takeAddress : takeAddress.Enters allowed := by
  have octet : ∀ stage, (receiveOctet stage).Enters allowed := fun _ _ => trivial
  refine (octet _).bind fun tag => ?_
  split
  · trivial
  · rename_i form _
    refine (enters_hostLength form (octet _)).bind fun length => ?_
    refine Enters.bind (fun _ => trivial) fun host => ?_
    exact Enters.bind (fun _ => trivial) fun port => .ofExcept _

theorem enters_skipAddress : skipAddress.Enters allowed := by
  have one : ∀ stage, (receiveOne stage).Enters allowed := fun _ _ => trivial
  refine (one _).bind fun tag => ?_
  split
  · trivial
  · rename_i form _
    refine (enters_hostLength form (one _)).bind fun length => ?_
    exact Enters.bind (fun _ => trivial) fun _ => trivial

theorem enters_boundAddress (command : Command) : (boundAddress command).Enters allowed := by
  cases command with
  | connect => exact enters_skipAddress.bind fun _ => trivial
  | udpAssociate => exact enters_takeAddress.bind fun _ => trivial

theorem enters_checkAnswer (header : Bytes) : (checkAnswer header).Enters allowed := by
  unfold checkAnswer
  dsimp only
  split <;> trivial

theorem enters_authentication (c : Credential) : (authentication c).Enters allowed := by
  refine (Enters.ofExcept _).bind fun message => ?_
  refine Enters.bind trivial fun _ => Enters.bind (fun _ => trivial) fun reply => ?_
  dsimp only
  split <;> trivial

theorem enters_methodSelection (c : Credential) (reply : Bytes) (asked : allowed .authRequired) :
    (methodSelection c reply).Enters allowed := by
  unfold methodSelection
  dsimp only
  split
  · trivial
  · split
    · trivial
    · exact Enters.bind ⟨asked, trivial⟩ fun _ => enters_authentication c
    · trivial

/-- A negotiation starts with the greeting; then it enters its second phase, and after that only
phases of one that is under way. -/
theorem exists_rest (c : Credential) (command : Command) (target : Address) :
    ∃ rest, negotiation c command target
        = .send "write greeting" c.greeting (.enter .greetingSent rest)
      ∧ rest.Enters Phase.IsUnderway := by
  refine ⟨_, rfl, ?_⟩
  refine Enters.bind trivial fun _ => ?_
  refine Enters.bind (fun _ => trivial) fun reply => ?_
  refine (enters_methodSelection c reply ⟨by decide, by decide⟩).bind fun _ => ?_
  refine Enters.bind ⟨⟨by decide, by decide⟩, trivial⟩ fun _ => ?_
  refine (Enters.ofExcept _).bind fun message => ?_
  refine Enters.bind trivial fun _ => ?_
  refine Enters.bind ⟨⟨by decide, by decide⟩, trivial⟩ fun _ => ?_
  refine Enters.bind (fun _ => trivial) fun header => ?_
  exact (enters_checkAnswer header).bind fun _ => enters_boundAddress command

end Dialogue

namespace Negotiator

/-! ### Uses in a row -/

/-- A use of a negotiator. -/
structure Use where
  /-- The target of a connection; a relay has none. -/
  target : Option Address
  stream : Stream
  now : Nat
  /-- When the use is abandoned, if it is waiting then. -/
  horizon : Stream.Limit

def Use.command (u : Use) : Command :=
  match u.target with
  | some _ => .connect
  | none => .udpAssociate

def use (n : Negotiator) (u : Use) : Run :=
  match u.target with
  | some target => n.connect u.horizon target u.now u.stream
  | none => n.associate u.horizon u.now u.stream

/-- The negotiator that is left after uses in a row. -/
def after (n : Negotiator) (uses : List Use) : Negotiator :=
  uses.foldl (fun n u => (n.use u).negotiator) n

variable {n : Negotiator} {limit horizon : Stream.Limit} {command : Command}
  {target : Address} {now : Nat} {stream : Stream} {c : Credential}

/-! ### What a use leaves behind -/

/-- Where a conversation that was abandoned had got to. -/
inductive Abandoned (c : Credential) (stream : Stream) (t : Talk) : Prop where
  /-- Within its greeting. -/
  | greeting : t.phase = .init → ∀ part, part <+: c.greeting → part.length < c.greeting.length →
      t.stream.output = stream.output ++ part → Abandoned c stream t
  /-- After its greeting, which was flushed. -/
  | underway : t.phase.IsUnderway → stream.output ++ c.greeting <+: t.stream.output →
      stream.flushes < t.stream.flushes → Abandoned c stream t

theorem Abandoned.phase_ne {t : Talk} {last : Phase} (abandoned : Abandoned c stream t)
    (terminal : last.isTerminal = true) : t.phase ≠ last := by
  rintro rfl
  cases abandoned with
  | greeting phase => rw [phase] at terminal; cases terminal
  | underway phase => exact Bool.noConfusion (terminal.symm.trans phase.notOver)

theorem Abandoned.greeting_written_iff {t : Talk} (abandoned : Abandoned c stream t) :
    t.phase ≠ .init ↔ stream.output ++ c.greeting <+: t.stream.output := by
  cases abandoned with
  | greeting phase part front short output =>
    refine iff_of_false (fun begun => begun phase) fun written => ?_
    rw [output, List.prefix_append_right_inj] at written
    exact Nat.not_le_of_lt short written.length_le
  | underway phase written => exact iff_of_true phase.begun written

theorem Abandoned.flushed {t : Talk} (abandoned : Abandoned c stream t) (begun : t.phase ≠ .init) :
    stream.flushes < t.stream.flushes := by
  cases abandoned with
  | greeting phase => exact absurd phase begun
  | underway _ _ flushed => exact flushed

theorem abandoned_of_expired
    (expired : ((negotiation c command target).perform limit ⟨.init, stream, now⟩).1
      = .error .expired) :
    Abandoned c stream ((negotiation c command target).perform limit ⟨.init, stream, now⟩).2 := by
  obtain ⟨rest, begins, enters⟩ := Dialogue.exists_rest c command target
  rw [begins] at expired ⊢
  simp only [Dialogue.perform] at expired ⊢
  split at expired
  · rename_i t sent
    -- the greeting is out, and what follows is performed in the second phase
    have account := (Talk.Account.start ⟨.init, stream, now⟩).sent sent
    have output : t.stream.output = stream.output ++ c.greeting := by
      simpa using account.output
    have grown := (Dialogue.grows_of_leads (Dialogue.leads_perform limit rest
      { t with phase := .greetingSent })).2.written
    have greeted : Phase.greetingSent.IsUnderway := ⟨by decide, by decide⟩
    refine .underway (enters.phase_perform limit greeted) ?_ ?_
    · rw [← output]
      exact grown.flatten
    · have flushed : t.stream.flushes = stream.flushes + 1 := account.flushes
      exact Nat.lt_of_lt_of_le (flushed ▸ Nat.lt_succ_self _)
        (Dialogue.flushes_le_perform limit rest { t with phase := .greetingSent })
  · rename_i halt t sent
    have gaveUp : (Talk.send limit c.greeting ⟨.init, stream, now⟩).1 = .error .expired := by
      rw [sent]
      cases halt <;> cases expired
      rfl
    obtain ⟨part, front, short, output⟩ := Talk.output_of_expired gaveUp
    have phase := Talk.phase_send limit c.greeting ⟨.init, stream, now⟩
    rw [sent] at output phase
    exact .greeting phase part front short output

/-- What a first use may come to. -/
inductive Ending (n : Negotiator) (command : Command) (stream : Stream) : Run → Prop where
  | ok {field : Bytes} {named bound : Option Address} {after : Stream} {now : Nat} :
      Address.IsField field named → command.Learns named bound →
      Ending n command stream ⟨.ok bound, { n with phase := .established }, after, now⟩
  | failed {f : Failure.Negotiation} {after : Stream} {now : Nat} :
      Ending n command stream ⟨.failed f, { n with phase := .failed }, after, now⟩
  | hung {t : Talk} : Abandoned n.credential stream t →
      Ending n command stream ⟨.hung, { n with phase := t.phase }, t.stream, t.now⟩

/-- **A first use** ends well or badly, and the phase says which; or it is abandoned within its
greeting or after it. -/
theorem ending_run (unused : n.phase = .init) :
    Ending n command stream (n.run horizon command target now stream) := by
  unfold run
  rw [if_neg (fun used => used unused), unused]
  dsimp only
  split
  · rename_i bound ok
    obtain ⟨_, _, field, learns⟩ := Dialogue.learns_of_perform ok
    exact .ok field learns
  · exact .failed
  · rename_i expired
    split
    · exact .failed
    · exact .hung (abandoned_of_expired expired)

section

variable {run : Run} (ending : Ending n command stream run)
include ending

theorem Ending.established_iff :
    (∃ bound, run.outcome = .ok bound) ↔ run.negotiator.phase = .established := by
  cases ending with
  | ok => simp
  | failed => simp
  | hung abandoned => exact iff_of_false (by simp) (abandoned.phase_ne rfl)

theorem Ending.failed_iff :
    (∃ f, run.outcome = .failed f) ↔ run.negotiator.phase = .failed := by
  cases ending with
  | ok => simp
  | failed => simp
  | hung abandoned => exact iff_of_false (by simp) (abandoned.phase_ne rfl)

theorem Ending.isSome_iff {bound : Option Address} (ok : run.outcome = .ok bound) :
    bound.isSome ↔ command = .udpAssociate := by
  cases ending with
  | ok _ learns =>
    cases ok
    exact learns.isSome_iff
  | failed => cases ok
  | hung => cases ok

/-- The address that a relay is said to have stands in a field. -/
theorem Ending.exists_isField {a : Address} (ok : run.outcome = .ok (some a)) :
    ∃ field, Address.IsField field (some a) := by
  cases ending with
  | @ok field named bound after now isField learns =>
    cases ok
    cases command with
    | connect => cases learns
    | udpAssociate =>
      obtain ⟨rfl, _⟩ := learns
      exact ⟨field, isField⟩
  | failed => cases ok
  | hung => cases ok

theorem Ending.greeting_written_iff (hung : run.outcome = .hung) : run.negotiator.phase ≠ .init
    ↔ stream.output ++ n.credential.greeting <+: run.stream.output := by
  cases ending with
  | ok => cases hung
  | failed => cases hung
  | hung abandoned => exact abandoned.greeting_written_iff

theorem Ending.flushed (hung : run.outcome = .hung) (begun : run.negotiator.phase ≠ .init) :
    stream.flushes < run.stream.flushes := by
  cases ending with
  | ok => cases hung
  | failed => cases hung
  | hung abandoned => exact abandoned.flushed begun

end

/-- Whatever state a negotiator was in, the address that it learns stands in a field. -/
theorem exists_isField_of_run {a : Address}
    (ok : (n.run horizon command target now stream).outcome = .ok (some a)) :
    ∃ field, Address.IsField field (some a) := by
  by_cases unused : n.phase = .init
  · exact (ending_run unused).exists_isField ok
  · rw [run_of_phase_ne_init unused] at ok
    cases ok

theorem ending_use (unused : n.phase = .init) (u : Use) :
    Ending n u.command u.stream (n.use u) := by
  obtain ⟨_ | target, stream, now, horizon⟩ := u
  · exact ending_run unused
  · exact ending_run unused

theorem use_of_used (used : n.phase ≠ .init) (u : Use) :
    n.use u = ⟨.failed (alreadyUsed n.phase), n, u.stream, u.now⟩ := by
  obtain ⟨_ | target, stream, now, horizon⟩ := u
  · exact run_of_phase_ne_init used _ _ _ _ _
  · exact run_of_phase_ne_init used _ _ _ _ _

/-- A used negotiator stays as it is. -/
theorem after_of_used (used : n.phase ≠ .init) (uses : List Use) : n.after uses = n := by
  induction uses with
  | nil => rfl
  | cons u uses ih =>
    rw [after, List.foldl_cons, use_of_used used]
    exact ih

/-- **Single use.** Whatever came before it, a use of a negotiator that has left its first phase
fails with that phase named, changes nothing, and leaves its stream untouched. A use in the first
phase leaves the negotiator established exactly if it succeeds, with a bound address exactly if it
asked for a relay, and failed exactly if it fails. If it is abandoned the negotiator has left its
first phase exactly if the greeting has been written whole, and then it has been flushed too. Once
the first phase is left, no stream is touched any more; and an established or failed negotiator
stays so. -/
theorem single_use (n : Negotiator) (before : List Use) (u : Use) :
    let m := n.after before
    let run := m.use u
    (m.phase ≠ .init → run = ⟨.failed (.io "negotiation" (.described .other
        ("negotiator already in state " ++ m.phase.name))), m, u.stream, u.now⟩)
    ∧ (m.phase = .init →
      ((∃ bound, run.outcome = .ok bound) ↔ run.negotiator.phase = .established)
      ∧ ((∃ f, run.outcome = .failed f) ↔ run.negotiator.phase = .failed)
      ∧ (∀ bound, run.outcome = .ok bound → (bound.isSome ↔ u.target = none))
      ∧ (run.outcome = .hung → (run.negotiator.phase ≠ .init
          ↔ u.stream.output ++ m.credential.greeting <+: run.stream.output)
        ∧ (run.negotiator.phase ≠ .init → u.stream.flushes < run.stream.flushes)))
    ∧ (run.negotiator.phase ≠ .init → ∀ uses v, run.negotiator.after uses = run.negotiator
      ∧ ((run.negotiator.after uses).use v).stream = v.stream)
    ∧ ∀ phase, phase = .established ∨ phase = .failed → m.phase = phase →
      ∀ later, (m.after later).phase = phase := by
  intro m run
  refine ⟨fun used => use_of_used used u, fun unused => ?_, fun used uses v => ?_, ?_⟩
  · have ending := ending_use unused u
    have asked : u.command = .udpAssociate ↔ u.target = none := by
      unfold Use.command
      split <;> simp_all
    exact ⟨ending.established_iff, ending.failed_iff,
      fun bound ok => (ending.isSome_iff ok).trans asked,
      fun hung => ⟨ending.greeting_written_iff hung, ending.flushed hung⟩⟩
  · have same := after_of_used used uses
    refine ⟨same, ?_⟩
    rw [same, use_of_used used]
  · rintro phase last rfl later
    have used : m.phase ≠ .init := by
      rcases last with same | same <;> rw [same] <;> decide
    rw [after_of_used used]

/-- The first use is abandoned within its greeting, the second after it, while the proxy pauses. The
third is refused, although a proxy stands ready. -/
theorem single_use_thrice :
    let stream : Stream :=
      { reads := [.item [5, 0, 5, 0, 0, 1, 1, 2, 3, 4, 0, 80]], writes := [], flushFault := none
        shutdownFault := none, written := [], flushes := 0, shutdowns := 0 }
    let stuck : Use := ⟨some (.name "x" 80), { stream with writes := [.item 1, .hang] }, 0, none⟩
    let paused : Use := ⟨none, { stream with reads := [.delay 10] }, 0, some 9⟩
    let ready : Use := ⟨none, stream, 0, none⟩
    let n := fresh ⟨"", ""⟩ none
    let last := n.after [stuck, paused]
    (n.after [stuck]).phase = .init ∧ last.phase = .greetingSent ∧ (last.use ready).stream = stream
      ∧ (last.use ready).outcome = .failed (.io "negotiation" (.described .other
          "negotiator already in state greeting_sent")) := by
  intro stream stuck paused ready n last
  have unused : (n.after [stuck]).phase = .init := by decide
  have greeted : last.phase = .greetingSent := by decide
  have begun : last.phase ≠ .init := by decide
  obtain ⟨_, _, spent, _⟩ := single_use n [stuck] paused
  obtain ⟨refuses, _⟩ := single_use n [stuck, paused] ready
  refine ⟨unused, greeted, (spent begun [] ready).2, ?_⟩
  rw [refuses begun]
  decide

end Negotiator

end Intercept.Proxy
