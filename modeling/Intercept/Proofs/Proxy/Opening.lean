import Intercept.Proofs.Proxy.Answer

/-!
# When opening a way succeeds

A negotiator without a deadline, on a stream on which nothing goes wrong, succeeds exactly if the
proxy's octets have an answer in front that it can follow. It takes that answer off the stream and
nothing after it, so that the first octet of the tunnel is the first octet left.

## Main statements

* `run_calm_ok`, `run_calm_error`: what a run on a calm stream comes to.
* `ok_iff_answer_in_front`: when opening a way succeeds, and what it leaves unread.
-/

namespace Intercept.Proxy.Negotiator

open Dialogue

variable {credential : Credential} {command : Command} {target : Address} {stream : Stream}

theorem run_calm_ok (calm : stream.Calm) (now : Nat) {bound : Option Address} {rest : Bytes}
    (h : (negotiation credential command target).listen (Stream.dataOf stream.reads)
      = (.ok bound, rest)) :
    ((fresh credential none).run none command target now stream).outcome = .ok bound
      ∧ ((fresh credential none).run none command target now stream).negotiator.phase
        = .established
      ∧ Stream.dataOf ((fresh credential none).run none command target now stream).stream.reads
        = rest := by
  obtain ⟨result, left⟩ := perform_calm (negotiation credential command target)
    (t := ⟨.init, stream, now⟩) calm
  rw [h] at result left
  simp only [run, fresh, ne_eq, not_true_eq_false, if_false, earlier, result]
  exact ⟨rfl, rfl, left⟩

theorem run_calm_error (calm : stream.Calm) (now : Nat) {f : Failure.Negotiation} {rest : Bytes}
    (h : (negotiation credential command target).listen (Stream.dataOf stream.reads)
      = (.error f, rest)) :
    ((fresh credential none).run none command target now stream).outcome = .failed f := by
  obtain ⟨result, _⟩ := perform_calm (negotiation credential command target)
    (t := ⟨.init, stream, now⟩) calm
  rw [h] at result
  simp only [run, fresh, ne_eq, not_true_eq_false, if_false, earlier, result]
  rfl

/-- A run on a calm stream succeeds exactly if there is an answer in front of its octets that the
client can follow. -/
theorem run_calm_ok_iff (calm : stream.Calm) (now : Nat) :
    (∃ bound, ((fresh credential none).run none command target now stream).outcome = .ok bound) ↔
      target.IsEncodable ∧ ∃ method named answer rest bound, Answer method named answer
        ∧ credential.Follows method ∧ command.Learns named bound
        ∧ Stream.dataOf stream.reads = answer ++ rest := by
  constructor
  · rintro ⟨bound, ok⟩
    cases heard : (negotiation credential command target).listen (Stream.dataOf stream.reads) with
    | mk result rest =>
      cases result with
      | error f =>
        rw [run_calm_error calm now heard] at ok
        cases ok
      | ok bound =>
        obtain ⟨answer, accepted, split⟩ := listen_eq_ok_iff.mp heard
        obtain ⟨encodable, method, named, isAnswer, follows, learns⟩ :=
          accepts_negotiation.mp accepted
        exact ⟨encodable, method, named, answer, rest, bound, isAnswer, follows, learns, split⟩
  · rintro ⟨encodable, method, named, answer, rest, bound, isAnswer, follows, learns, split⟩
    have accepted := accepts_negotiation.mpr
      ⟨encodable, method, named, isAnswer, follows, learns⟩
    exact ⟨bound, (run_calm_ok calm now (listen_eq_ok_iff.mpr ⟨answer, accepted, split⟩)).1⟩

/-- A run on a calm stream with an answer in front establishes the way and leaves the rest. -/
theorem run_calm_answer (calm : stream.Calm) (now : Nat) (encodable : target.IsEncodable)
    {method : Method} {named bound : Option Address} {answer rest : Bytes}
    (isAnswer : Answer method named answer) (follows : credential.Follows method)
    (learns : command.Learns named bound) (split : Stream.dataOf stream.reads = answer ++ rest) :
    ((fresh credential none).run none command target now stream).outcome = .ok bound
      ∧ ((fresh credential none).run none command target now stream).negotiator.phase
        = .established
      ∧ Stream.dataOf ((fresh credential none).run none command target now stream).stream.reads
        = rest := by
  have accepted := accepts_negotiation.mpr ⟨encodable, method, named, isAnswer, follows, learns⟩
  exact run_calm_ok calm now (listen_eq_ok_iff.mpr ⟨answer, accepted, split⟩)

/-- **When opening a way succeeds.** Without a deadline and on a stream on which nothing goes wrong,
however the proxy's octets are cut into pieces, a connection is opened exactly if its target can be
written and the octets have an answer in front that the client can follow; a relay is opened exactly
if they have such an answer in front that names its address by a text, if it names it by a name at
all. Either takes the answer off the stream and leaves every octet after it. -/
theorem ok_iff_answer_in_front (credential : Credential) (target : Address) (now : Nat)
    {stream : Stream} (calm : stream.Calm) :
    let input := Stream.dataOf stream.reads
    let connected := (fresh credential none).connect none target now stream
    let associated := (fresh credential none).associate none now stream
    ((∃ bound, connected.outcome = .ok bound) ↔ target.IsEncodable ∧
      ∃ method named answer rest, Answer method named answer ∧ credential.Follows method
        ∧ input = answer ++ rest)
    ∧ (target.IsEncodable → ∀ method named answer rest, Answer method named answer →
      credential.Follows method → input = answer ++ rest →
      connected.outcome = .ok none ∧ connected.negotiator.phase = .established
        ∧ Stream.dataOf connected.stream.reads = rest)
    ∧ ((∃ bound, associated.outcome = .ok bound) ↔
      ∃ method address answer rest, Answer method (some address) answer
        ∧ credential.Follows method ∧ input = answer ++ rest)
    ∧ (∀ method address answer rest, Answer method (some address) answer →
      credential.Follows method → input = answer ++ rest →
      associated.outcome = .ok (some address) ∧ associated.negotiator.phase = .established
        ∧ Stream.dataOf associated.stream.reads = rest) := by
  refine ⟨(run_calm_ok_iff calm now).trans ?_, ?_, (run_calm_ok_iff calm now).trans ?_, ?_⟩
  · constructor
    · rintro ⟨encodable, method, named, answer, rest, _, isAnswer, follows, _, split⟩
      exact ⟨encodable, method, named, answer, rest, isAnswer, follows, split⟩
    · rintro ⟨encodable, method, named, answer, rest, isAnswer, follows, split⟩
      exact ⟨encodable, method, named, answer, rest, none, isAnswer, follows, rfl, split⟩
  · intro encodable method named answer rest isAnswer follows split
    exact run_calm_answer calm now encodable isAnswer follows rfl split
  · constructor
    · rintro ⟨_, method, named, answer, rest, _, isAnswer, follows, ⟨_, isText⟩, split⟩
      obtain ⟨address, rfl⟩ := Option.isSome_iff_exists.mp isText
      exact ⟨method, address, answer, rest, isAnswer, follows, split⟩
    · rintro ⟨method, address, answer, rest, isAnswer, follows, split⟩
      exact ⟨trivial, method, _, answer, rest, some address, isAnswer, follows, ⟨rfl, rfl⟩, split⟩
  · intro method address answer rest isAnswer follows split
    have any : anyAddress.IsEncodable := trivial
    exact run_calm_answer calm now any isAnswer follows ⟨rfl, rfl⟩ split

/-- A proxy that asks for a proof, accepts it with `1`, and names `x:80`, all in odd pieces: the
octet `99` that it sends after that is the first one of the tunnel. -/
theorem connected_through_pieces :
    let credential : Credential := ⟨"u", "p"⟩
    let stream : Stream :=
      { reads := [.yield, .item [5], .delay 3, .item [2, 1, 0], .item [5, 0, 0, 3], .yield,
          .item [1, 120, 0, 80, 99]]
        writes := [.item 1, .yield, .item 2, .delay 5, .item 7]
        flushFault := none, shutdownFault := some .writeZero
        written := [], flushes := 0, shutdowns := 0 }
    let connected := (fresh credential none).connect none (.name "y" 0) 0 stream
    stream.Calm ∧ connected.outcome = .ok none ∧ connected.negotiator.phase = .established
      ∧ Stream.dataOf connected.stream.reads = [99] := by
  intro credential stream connected
  have calm : stream.Calm := ⟨by decide, by decide, rfl⟩
  have encodable : (Address.name "y" 0).IsEncodable := ⟨by decide, by decide⟩
  have follows : credential.Follows .password := fun _ => ⟨by decide, by decide⟩
  have field := @Address.IsField.name 1 [120] rfl 80
  have answer := Answer.of 0 (.password (.inr rfl) 0) field
  obtain ⟨_, opens, _⟩ := ok_iff_answer_in_front credential (.name "y" 0) 0 calm
  exact ⟨calm, opens encodable _ _ _ [99] answer follows rfl⟩

end Intercept.Proxy.Negotiator
