import Intercept.Proofs.Proxy.Listening
import Intercept.Proxy.Negotiation

/-!
# Pieces make no difference

The octets of a stream may come in any pieces and with any waits between them, and so may a message
be taken. A negotiation without a deadline cannot tell: on two streams that bring the same octets it
says the same, comes to the same end, and leaves the same octets behind. This holds of every end,
also where the octets are too few or break the protocol.

## Main statements

* `Dialogue.perform_alike`: a dialogue takes streams that are alike to streams that are alike.
* `Negotiator.pieces_make_no_difference`: the law for whole negotiations.
-/

namespace Intercept

namespace Stream

/-- Two streams on which the same octets come, and of which the same is true when they are flushed;
so far the same was said on them, with as many flushes. Octets come and are taken without a fault,
on each in pieces and at times of its own. -/
structure Alike (s t : Stream) : Prop where
  reads : (∀ e ∈ s.reads, e.isCalm = true) ∧ ∀ e ∈ t.reads, e.isCalm = true
  writes : (∀ e ∈ s.writes, e.isWilling = true) ∧ ∀ e ∈ t.writes, e.isWilling = true
  data : dataOf s.reads = dataOf t.reads
  flushFault : s.flushFault = t.flushFault
  output : s.output = t.output
  flushes : s.flushes = t.flushes

theorem Alike.unread {s t : Stream} (alike : s.Alike t) : s.unread = t.unread :=
  congrArg List.length alike.data

end Stream

namespace Proxy

namespace Talk

/-- Two talks that have come to the same phase, on streams that are alike. -/
structure Alike (t u : Talk) : Prop where
  phase : t.phase = u.phase
  stream : t.stream.Alike u.stream

variable {t u : Talk}

/-- A message is sent alike, and the wait for it to be taken is not given up. -/
theorem Alike.send (alike : t.Alike u) (message : Bytes) :
    ∃ result t' u', t.send none message = (result, t') ∧ u.send none message = (result, u')
      ∧ result ≠ .error .expired ∧ t'.Alike u' := by
  obtain ⟨phase, reads, writes, data, flushFault, output, flushes⟩ := alike
  obtain ⟨t', sent, willing, fault, said, flushed⟩ := send_willing writes.1 message
  obtain ⟨u', sent', willing', fault', said', flushed'⟩ := send_willing writes.2 message
  have kept := phase_send none message t
  have kept' := phase_send none message u
  have unread := reads_send none message t
  have unread' := reads_send none message u
  rw [sent] at kept unread
  rw [sent'] at kept' unread'
  dsimp only at kept kept' unread unread'
  rw [← flushFault] at sent'
  refine ⟨_, t', u', sent, sent', ?_, ?_, ?_, ⟨willing, willing'⟩, ?_, ?_, ?_, ?_⟩
  · split <;> intro expired <;> cases expired
  · rw [kept, kept', phase]
  · rw [unread, unread']
    exact reads
  · rw [unread, unread', data]
  · rw [fault, fault', flushFault]
  · rw [said, said', output]
  · rw [flushed, flushed', flushes]

/-- Octets are waited for alike, and the wait for them is not given up. -/
theorem Alike.await (alike : t.Alike u) (count : Nat) :
    ∃ result t' u', t.await none count = (result, t') ∧ u.await none count = (result, u')
      ∧ result ≠ .error .expired ∧ t'.Alike u' := by
  obtain ⟨phase, reads, writes, data, flushFault, output, flushes⟩ := alike
  obtain ⟨t', came, calm, left, same⟩ := await_of_calm reads.1 count
  obtain ⟨u', came', calm', left', same'⟩ := await_of_calm reads.2 count
  have kept := phase_await none count t
  have kept' := phase_await none count u
  rw [came] at kept
  rw [came'] at kept'
  dsimp only at kept kept'
  rw [← data] at came' left'
  refine ⟨_, t', u', came, came', ?_, ?_, ⟨calm, calm'⟩, ?_, ?_, ?_, ?_, ?_⟩
  · split <;> intro expired <;> cases expired
  · rw [kept, kept', phase]
  · rw [same, same']
    exact writes
  · rw [left, left']
  · rw [same, same', flushFault]
  · rw [same, same', output]
  · rw [same, same', flushes]

end Talk

/-- A dialogue whose transfer stopped is not given up, unless the transfer was. -/
theorem stopOf_ne_expired {α β : Type} {halt : Stream.Halt} {stage : String} {ended : IoFault}
    (notExpired : (.error halt : Except Stream.Halt β) ≠ .error .expired) :
    (.error (Talk.stopOf stage ended halt) : Except Talk.Stop α) ≠ .error .expired := by
  intro expired
  cases halt with
  | expired => exact notExpired rfl
  | fault f | ended | refused => cases expired

/-- **A dialogue cannot tell** streams apart that are alike: it comes to the same end on them, no
wait of it is given up, and it leaves them alike. -/
theorem Dialogue.perform_alike {α : Type} (d : Dialogue α) {t u : Talk} (alike : t.Alike u) :
    ∃ result t' u', d.perform none t = (result, t') ∧ d.perform none u = (result, u')
      ∧ result ≠ .error .expired ∧ t'.Alike u' := by
  induction d generalizing t u with
  | done a => exact ⟨.ok a, t, u, rfl, rfl, (fun expired => by cases expired), alike⟩
  | giveUp f => exact ⟨.error (.failure f), t, u, rfl, rfl, (fun expired => by cases expired), alike⟩
  | enter phase next ih =>
    have entered : Talk.Alike { t with phase := phase } { u with phase := phase } :=
      ⟨rfl, alike.stream⟩
    exact ih entered
  | send stage message next ih =>
    obtain ⟨result, t', u', sent, sent', notExpired, alike'⟩ := alike.send message
    simp only [perform, sent, sent']
    cases result with
    | ok said => exact ih alike'
    | error halt =>
      exact ⟨_, t', u', rfl, rfl, stopOf_ne_expired notExpired, alike'⟩
  | await stage ended count next ih =>
    obtain ⟨result, t', u', came, came', notExpired, alike'⟩ := alike.await count
    simp only [perform, came, came']
    cases result with
    | ok octets => exact ih octets alike'
    | error halt =>
      exact ⟨_, t', u', rfl, rfl, stopOf_ne_expired notExpired, alike'⟩

namespace Negotiator

/-- **Pieces make no difference.** A negotiator without a deadline leads a negotiation on two streams
that are alike to the same end, and always to an end: it succeeds with the same bound address or
fails with the same failure, it comes to the same phase, it says the same with as many flushes, and
it leaves as many octets unread. -/
theorem pieces_make_no_difference (n : Negotiator) (boundless : n.deadline = none)
    (command : Command) (target : Address) {s t : Stream} (alike : s.Alike t) (now later : Nat) :
    let run := n.run none command target now s
    let other := n.run none command target later t
    run.outcome = other.outcome ∧ run.outcome ≠ .hung
      ∧ run.negotiator = other.negotiator
      ∧ run.stream.output = other.stream.output
      ∧ run.stream.flushes = other.stream.flushes
      ∧ run.stream.unread = other.stream.unread := by
  intro run other
  by_cases used : n.phase ≠ .init
  · -- a negotiator that has been used does not touch its stream
    have same : run = _ := run_of_phase_ne_init used none command target now s
    have same' : other = _ := run_of_phase_ne_init used none command target later t
    rw [same, same']
    exact ⟨rfl, (fun hung => by cases hung), rfl, alike.output, alike.flushes, alike.unread⟩
  · have begun : Talk.Alike ⟨n.phase, s, now⟩ ⟨n.phase, t, later⟩ := ⟨rfl, alike⟩
    obtain ⟨result, talk, talk', held, held', notExpired, still⟩ :=
      (negotiation n.credential command target).perform_alike begun
    have unlimited : earlier n.deadline none = none := by rw [boundless]; rfl
    simp only [run, other, Negotiator.run, if_neg used, unlimited, held, held']
    have stream := still.stream
    cases result with
    | ok bound =>
      exact ⟨rfl, (fun hung => by cases hung), rfl, stream.output, stream.flushes, stream.unread⟩
    | error stop =>
      cases stop with
      | failure f =>
        exact ⟨rfl, (fun hung => by cases hung), rfl, stream.output, stream.flushes, stream.unread⟩
      | expired => exact absurd rfl notExpired

/-- The proxy asks for a proof, accepts it, and breaks off within the name of its bound address. It
does so in one piece, and octet by octet with waits while the messages are taken octet by octet too;
either way the negotiation fails with the end of the data, after the same octets and three flushes. -/
theorem broken_off_in_pieces :
    let n := fresh ⟨"u", "p"⟩ none
    let whole : Stream :=
      { reads := [.item [5, 2, 1, 0, 5, 0, 0, 3, 4, 120]]
        writes := [], flushFault := none, shutdownFault := none
        written := [], flushes := 0, shutdowns := 0 }
    let pieces : Stream :=
      { reads := [.yield, .item [5], .delay 3, .item [2, 1], .item [], .item [0, 5, 0], .delay 9,
          .item [0, 3], .yield, .item [4], .item [120], .delay 1]
        writes := [.item 1, .yield, .item 2, .delay 5, .item 1, .item 1, .item 40]
        flushFault := none, shutdownFault := some .writeZero
        written := [], flushes := 0, shutdowns := 0 }
    let run := n.run none .connect (.name "y" 0) 7 pieces
    n.deadline = none ∧ whole.Alike pieces
      ∧ run.outcome = .failed (.io "read bound address" .earlyEnd)
      ∧ run.negotiator.phase = .failed
      ∧ run.stream.output = [5, 2, 0, 2] ++ [1, 1, 117, 1, 112] ++ [5, 1, 0, 3, 1, 121, 0, 80]
      ∧ run.stream.flushes = 3 ∧ run.stream.unread = 0 := by
  intro n whole pieces run
  have alike : whole.Alike pieces :=
    ⟨⟨by decide, by decide⟩, ⟨by decide, by decide⟩, rfl, rfl, rfl, rfl⟩
  obtain ⟨outcome, _, negotiator, output, flushes, unread⟩ :=
    pieces_make_no_difference n rfl .connect (.name "y" 0) alike 0 7
  -- it is enough to follow the negotiation on the stream that brings all at once
  refine ⟨rfl, alike, outcome.symm.trans ?_, (congrArg phase negotiator).symm.trans ?_,
    output.symm.trans ?_, flushes.symm.trans ?_, unread.symm.trans ?_⟩
  all_goals decide +kernel

end Negotiator

end Proxy

end Intercept
