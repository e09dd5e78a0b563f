import Intercept.Proofs.Proxy.Turns
import Intercept.Proofs.Stream.Passage
import Mathlib.Data.List.Infix

/-!
# What a negotiation writes

Whatever happens on the stream, a negotiation writes its messages in order and nothing else; it
writes none of them before the reply that calls for it; and once something has gone wrong it writes
nothing more, whether a reply was wrong or a call on the stream failed.

## Main statements

* `comesThrough_or_ended`: a step in which a call fails, or a wait is given up, is the last.
* `speaks_in_turn`: what has been written and read at every moment of a run.
-/

namespace Intercept.Proxy

open Dialogue

/-! ### The lines of a client -/

/-- What can be made, up to the first that cannot. -/
def writable {ε α : Type} : List (Except ε α) → List α
  | .ok a :: more => a :: writable more
  | _ => []

/-- What a client says if the given method is settled, up to the first message that cannot be
written. -/
def speech (c : Credential) (command : Command) (target : Address) : Method → List Bytes
  | .anonymous => writable [.ok c.greeting, request command target]
  | .password => writable [.ok c.greeting, c.proof, request command target]

/-- The method that the replies call for. -/
def selectedBy (heard : Bytes) : Method := if [5, 2] <+: heard then .password else .anonymous

/-- Whether the messages `said` are the first of the lines, and `part` is the front of the next. -/
def Spoken (lines said : List Bytes) (part : Bytes) : Prop :=
  said <+: lines ∧ (part = [] ∨ ∃ message, said ++ [message] <+: lines
    ∧ part <+: message ∧ part.length < message.length)

variable {c : Credential} {command : Command} {target : Address} {past heard part message : Bytes}
  {before said : List Bytes}

theorem Turn.next_line (turn : Turn c command target past before message) (front : past <+: heard) :
    before ++ [message] <+: speech c command target (selectedBy heard) := by
  cases turn with
  | greeting =>
    cases selectedBy heard with
    | anonymous => exact ⟨_, rfl⟩
    | password => exact ⟨_, rfl⟩
  | proof written =>
    rw [selectedBy, if_pos front, speech, written]
    exact ⟨_, rfl⟩
  | request settled preamble written =>
    obtain ⟨rest, rfl⟩ := front
    cases settled with
    | anonymous =>
      have unasked : ¬ [5, 2] <+: [5, 0] ++ rest := by simp
      cases preamble
      rw [selectedBy, if_neg unasked, speech, written]
      exact ⟨_, rfl⟩
    | @password status _ second =>
      have asked : [5, 2] <+: [5, 2, status, second] ++ rest := ⟨_, rfl⟩
      cases preamble with
      | password proven =>
        rw [selectedBy, if_pos asked, speech, proven, written]
        exact ⟨_, rfl⟩

theorem Dialogue.InTurn.spoken (inTurn : InTurn (lawOf c command target) heard said part) :
    Spoken (speech c command target (selectedBy heard)) said part := by
  rcases inTurn with ⟨rfl, rfl⟩ | ⟨past, before, message, front, turn, begun⟩
  · exact ⟨List.nil_prefix, .inl rfl⟩
  · have line := Turn.next_line turn front
    rcases begun with ⟨rfl, rfl⟩ | ⟨rfl, cut, short⟩
    · exact ⟨line, .inl rfl⟩
    · exact ⟨(List.prefix_append _ _).trans line, .inr ⟨message, line, cut, short⟩⟩

theorem Spoken.flatten {lines : List Bytes} (spoken : Spoken lines said part) :
    said.flatten ++ part <+: lines.flatten := by
  obtain ⟨first, rfl | ⟨message, line, cut, _⟩⟩ := spoken
  · rw [List.append_nil]
    exact first.flatten
  · have whole := line.flatten
    rw [List.flatten_append, List.flatten_singleton] at whole
    exact ((List.prefix_append_right_inj _).mpr cut).trans whole

/-- What has been written shows what has been read: no more than the greeting; or the proof was
asked for and no more than the proof is written; or a method is settled. -/
theorem Dialogue.InTurn.called_for (inTurn : InTurn (lawOf c command target) heard said part) :
    said.flatten ++ part <+: c.greeting
      ∨ ([5, 2] <+: heard ∧ ∃ proof, c.proof = .ok proof
        ∧ said.flatten ++ part <+: c.greeting ++ proof)
      ∨ ∃ method selection, Selection method selection ∧ selection <+: heard := by
  rcases inTurn with ⟨rfl, rfl⟩ | ⟨past, before, message, front, turn, begun⟩
  · exact .inl List.nil_prefix
  · have upTo : said.flatten ++ part <+: before.flatten ++ message := by
      rcases begun with ⟨rfl, rfl⟩ | ⟨rfl, cut, _⟩
      · simp
      · exact (List.prefix_append_right_inj _).mpr cut
    cases turn with
    | greeting => exact .inl upTo
    | proof written =>
      refine .inr (.inl ⟨front, message, written, ?_⟩)
      rwa [List.flatten_singleton] at upTo
    | request settled preamble written => exact .inr (.inr ⟨_, _, settled, front⟩)

/-! ### Steps that come through -/

/-- Whether all calls that took a talk from one moment to another came through: it entered a phase,
or read, or wrote and then flushed. -/
inductive Talk.ComesThrough (limit : Stream.Limit) (t : Talk) : Talk → Prop where
  | entered (phase : Phase) : ComesThrough limit t { t with phase := phase }
  | heard {rest : List (Event Bytes)} {later : Nat} :
      Stream.ReadsOn limit t.now t.stream.reads later rest →
      ComesThrough limit t { t with stream := { t.stream with reads := rest }, now := later }
  | said {sink : Sink} {later : Nat} :
      Stream.WritesOn limit t.now t.stream.writes later sink.writes → t.stream.flushFault = none →
      ComesThrough limit t { t with stream := { t.stream with toSink := sink }, now := later }

namespace Talk.ComesThrough

variable {limit : Stream.Limit} {t t' : Talk}

theorem of_await {count : Nat} {octets : Bytes} (came : t.await limit count = (.ok octets, t')) :
    t.ComesThrough limit t' := by
  unfold await at came
  dsimp only at came
  split at came
  · rename_i whole
    cases came
    exact .heard (Stream.passes_gather _ _ _ whole)
  · cases came

theorem of_send {message : Bytes} (sent : t.send limit message = (.ok (), t')) :
    t.ComesThrough limit t' := by
  unfold send at sent
  dsimp only at sent
  split at sent
  · cases sent
  · rename_i whole
    split at sent
    · cases sent
    · rename_i flushed
      cases sent
      exact .said (Stream.passes_deliver _ _ _ whole) flushed

end Talk.ComesThrough

/-- **A step comes through, or it ends the conversation** without success. -/
theorem Dialogue.comesThrough_or_ended {α : Type} {limit : Stream.Limit} {m m' : Moment α}
    (step : m.next limit = some m') :
    m.talk.ComesThrough limit m'.talk ∨ ∃ stop t, m' = .ended (.error stop) t := by
  cases m with
  | ended result t => cases step
  | midway d t =>
    cases d with
    | done a | giveUp f =>
      cases step
      exact .inl (.entered t.phase)
    | enter phase d =>
      cases step
      exact .inl (.entered phase)
    | send stage message d =>
      simp only [Moment.next] at step
      split at step
      · rename_i t' sent
        cases step
        exact .inl (.of_send sent)
      · cases step
        exact .inr ⟨_, _, rfl⟩
    | await stage ended count d =>
      simp only [Moment.next] at step
      split at step
      · rename_i octets t' came
        cases step
        exact .inl (.of_await came)
      · cases step
        exact .inr ⟨_, _, rfl⟩

namespace Negotiator

/-! ### Runs -/

theorem stream_run (c : Credential) (deadline horizon : Stream.Limit) (command : Command)
    (target : Address) (now : Nat) (stream : Stream) :
    ((fresh c deadline).run horizon command target now stream).stream
      = ((negotiation c command target).perform (earlier deadline horizon)
        ⟨.init, stream, now⟩).2.stream := by
  rw [run, if_neg (fun used => used rfl)]
  dsimp only
  split
  · rfl
  · rfl
  · split <;> rfl

theorem outcome_run_of_failure {c : Credential} {deadline horizon : Stream.Limit}
    {command : Command} {target : Address} {now : Nat} {stream : Stream} {f : Failure.Negotiation}
    (failed : ((negotiation c command target).perform (earlier deadline horizon)
      ⟨.init, stream, now⟩).1 = .error (.failure f)) :
    ((fresh c deadline).run horizon command target now stream).outcome = .failed f := by
  simp only [run, fresh, ne_eq, not_true_eq_false, if_false, failed]

/-- A run whose conversation was stopped does not succeed. -/
theorem outcome_run_of_stopped {c : Credential} {deadline horizon : Stream.Limit}
    {command : Command} {target : Address} {now : Nat} {stream : Stream} {stop : Talk.Stop}
    (stopped : ((negotiation c command target).perform (earlier deadline horizon)
      ⟨.init, stream, now⟩).1 = .error stop) (bound : Option Address) :
    ((fresh c deadline).run horizon command target now stream).outcome ≠ .ok bound := by
  intro succeeded
  rw [run, if_neg (fun used => used rfl)] at succeeded
  dsimp only at succeeded
  split at succeeded
  · rename_i performed
    cases performed.symm.trans stopped
  · cases succeeded
  · split at succeeded <;> cases succeeded

/-- What is true at a moment of a run, when `heard` has been read, the messages `said` have been
written and flushed, and `part` has been written after them. -/
structure SpeaksInTurn (c : Credential) (command : Command) (target : Address)
    (limit : Stream.Limit) (stream : Stream) (run : Run) (m : Moment (Option Address))
    (heard : Bytes) (said : List Bytes) (part : Bytes) : Prop where
  read : Stream.dataOf stream.reads = heard ++ Stream.dataOf m.talk.stream.reads
  written : m.talk.stream.output = stream.output ++ (said.flatten ++ part)
  flushed : m.talk.stream.flushes = stream.flushes + said.length
  /-- Nothing but the messages is written, in order, and none that cannot be written or after one
  that cannot. -/
  spoken : Spoken (speech c command target (selectedBy heard)) said part
  front : said.flatten ++ part <+: (speech c command target (selectedBy heard)).flatten
  /-- The proof is begun after `05 02`, and the request after a method is settled. -/
  called_for : said.flatten ++ part <+: c.greeting
    ∨ ([5, 2] <+: heard ∧ ∃ proof, c.proof = .ok proof
      ∧ said.flatten ++ part <+: c.greeting ++ proof)
    ∨ ∃ method selection, Selection method selection ∧ selection <+: heard
  /-- After a violation of the protocol the whole run writes nothing more. -/
  offended : Violation heard → run.stream.output = m.talk.stream.output
  /-- If the message that is due cannot be written, the run fails for that reason and writes nothing
  more. -/
  stuck : ∀ f, Stuck c command target heard f →
    run.outcome = .failed f ∧ run.stream.output = m.talk.stream.output
  /-- If in the next step a call fails, the proxy takes nothing, or a wait is given up, the run does
  not succeed, and it leaves the stream as this step leaves it. -/
  harmed : ∀ m', m.next limit = some m' → ¬ m.talk.ComesThrough limit m'.talk →
    (∀ bound, run.outcome ≠ .ok bound) ∧ run.stream = m'.talk.stream
  /-- Where the conversation has ended, the run is over. -/
  stopped : ∀ result t, m = .ended result t → run.stream = t.stream

variable {deadline horizon : Stream.Limit} {now : Nat} {stream : Stream}

/-- A conversation that is over, and in which the client was stuck, failed for that reason. -/
theorem result_of_stuck {result : Except Talk.Stop (Option Address)} {t : Talk}
    {f : Failure.Negotiation}
    (standing : Standing (lawOf c command target)
      (fun _ heard _ => ∀ f, ¬ Stuck c command target heard f) (.ended result t) heard said part)
    (stuck : Stuck c command target heard f) : result = .error (.failure f) := by
  cases standing with
  | done free => exact absurd stuck (free f)
  | gaveUp reason =>
    rw [reason f stuck]
  | unsaid turn => exact absurd stuck turn.not_stuck
  | unheard free short => exact absurd stuck (free _ f short)

/-- **What a negotiation writes.** A run goes through the moments of its conversation to its end,
and at every one of them the client has spoken in turn. -/
theorem speaks_in_turn (c : Credential) (deadline horizon : Stream.Limit) (command : Command)
    (target : Address) (now : Nat) (stream : Stream) :
    let limit := earlier deadline horizon
    let begun := Moment.midway (negotiation c command target) ⟨.init, stream, now⟩
    let run := (fresh c deadline).run horizon command target now stream
    (∃ result t, Leads (Moment.next limit) begun (.ended result t) ∧ run.stream = t.stream)
    ∧ ∀ m, Leads (Moment.next limit) begun m →
      ∃ heard said part, SpeaksInTurn c command target limit stream run m heard said part := by
  intro limit begun run
  have ends := leads_perform limit (negotiation c command target) ⟨.init, stream, now⟩
  have last := stream_run c deadline horizon command target now stream
  refine ⟨⟨_, _, ends, last⟩, fun m leads => ?_⟩
  obtain ⟨heard, said, part, kept⟩ := kept_of_leads (obeys_negotiation c command target) leads
  -- the run has one course, so this moment leads to its end
  have toEnd := leads.to_end ends rfl
  refine ⟨heard, said, part, kept.account.reads, kept.account.output, kept.account.flushes,
    kept.inTurn.spoken, kept.inTurn.spoken.flatten, kept.inTurn.called_for, ?_, ?_, ?_, ?_⟩
  · intro violation
    obtain ⟨_, _, later⟩ := kept.silent Violation.mono Turn.not_violation violation toEnd
    rw [last, kept.account.output]
    exact later.account.output
  · intro f stuck
    obtain ⟨heard', more, later⟩ := kept.silent Stuck.mono Turn.not_stuck stuck toEnd
    refine ⟨outcome_run_of_failure (result_of_stuck later.standing (stuck.mono more)), ?_⟩
    rw [last, kept.account.output]
    exact later.account.output
  · intro m' step harmed
    obtain ⟨stop, t, rfl⟩ := (comesThrough_or_ended step).resolve_left harmed
    have same := Leads.eq_of_last rfl ((leads.trans (.step step .refl)).to_end ends rfl)
    obtain ⟨stopped, left⟩ := Moment.ended.inj same
    refine ⟨outcome_run_of_stopped stopped, ?_⟩
    rw [last, left]
    rfl
  · rintro result t rfl
    have same := Leads.eq_of_last rfl toEnd
    cases same
    exact last

end Negotiator

end Intercept.Proxy
