import Intercept.Proofs.Proxy.Answer
import Intercept.Proofs.Proxy.Conversation

/-!
# The turns of a negotiation

The law that a client keeps towards the proxy: which message may be sent after which reply, and when
the client is stuck because the message that is due cannot be written. The dialogue of a negotiation
obeys it, whatever the proxy answers.

## Main statements

* `Turn.not_stuck`, `Turn.not_violation`: nobody speaks who is stuck or was offended.
* `obeys_negotiation`: a negotiation obeys the law.
-/

namespace Intercept.Proxy

/-- What the client has said when a method is settled. -/
inductive Preamble (c : Credential) : Method → List Bytes → Prop where
  | anonymous : Preamble c .anonymous [c.greeting]
  | password {proof : Bytes} : c.proof = .ok proof → Preamble c .password [c.greeting, proof]

/-- Which message is sent after what has been heard and said: the greeting first; the proof once it
has been asked for; the request once a method is settled. -/
inductive Turn (c : Credential) (command : Command) (target : Address) :
    Bytes → List Bytes → Bytes → Prop where
  | greeting : Turn c command target [] [] c.greeting
  | proof {proof : Bytes} : c.proof = .ok proof → Turn c command target [5, 2] [c.greeting] proof
  | request {method : Method} {selection message : Bytes} {said : List Bytes} :
      Selection method selection → Preamble c method said → request command target = .ok message →
      Turn c command target selection said message

/-- Replies after which the message that is due cannot be written, and why. -/
inductive Stuck (c : Credential) (command : Command) (target : Address) :
    Bytes → Failure.Negotiation → Prop where
  | proof {f : Failure.Negotiation} (more : Bytes) :
      c.proof = .error f → Stuck c command target ([5, 2] ++ more) f
  | request {method : Method} {selection : Bytes} {f : Failure.Negotiation} (more : Bytes) :
      Selection method selection → c.Follows method → request command target = .error f →
      Stuck c command target (selection ++ more) f

/-- Replies with an octet that violates the protocol. -/
inductive Violation : Bytes → Prop where
  | version {v : UInt8} (more : Bytes) : v ≠ 5 → Violation (v :: more)
  | method {selected : UInt8} (more : Bytes) :
      selected ≠ 0 → selected ≠ 2 → Violation (5 :: selected :: more)
  | status {status : UInt8} (more : Bytes) :
      status ≠ 0 → status ≠ 1 → Violation (5 :: 2 :: status :: more)
  | replyVersion {method : Method} {selection : Bytes} {v : UInt8} (more : Bytes) :
      Selection method selection → v ≠ 5 → Violation (selection ++ v :: more)
  | replyCode {method : Method} {selection : Bytes} {code : UInt8} (more : Bytes) :
      Selection method selection → code ≠ 0 → Violation (selection ++ 5 :: code :: more)
  | addressType {method : Method} {selection : Bytes} {tag : UInt8} (reserved : UInt8)
      (more : Bytes) : Selection method selection → tag ≠ 1 → tag ≠ 3 → tag ≠ 4 →
      Violation (selection ++ 5 :: 0 :: reserved :: tag :: more)

section

variable {c : Credential} {command : Command} {target : Address} {method method' : Method}
  {selection selection' heard heard' message : Bytes} {said : List Bytes} {f : Failure.Negotiation}

theorem Stuck.mono (stuck : Stuck c command target heard f) (more : heard <+: heard') :
    Stuck c command target heard' f := by
  obtain ⟨rest, rfl⟩ := more
  cases stuck with
  | proof past unwritable =>
    rw [List.append_assoc]
    exact .proof (past ++ rest) unwritable
  | request past settled follows unwritable =>
    rw [List.append_assoc]
    exact .request (past ++ rest) settled follows unwritable

theorem Violation.mono (violation : Violation heard) (more : heard <+: heard') :
    Violation heard' := by
  obtain ⟨rest, rfl⟩ := more
  cases violation with
  | version past wrong => exact .version (past ++ rest) wrong
  | method past no nor => exact .method (past ++ rest) no nor
  | status past no nor => exact .status (past ++ rest) no nor
  | replyVersion past settled wrong =>
    rw [List.append_assoc]
    exact .replyVersion (past ++ rest) settled wrong
  | replyCode past settled wrong =>
    rw [List.append_assoc]
    exact .replyCode (past ++ rest) settled wrong
  | addressType reserved past settled no nor neither =>
    rw [List.append_assoc]
    exact .addressType reserved (past ++ rest) settled no nor neither

/-- A selection says of itself where it ends and which method it selects. -/
theorem Selection.unique {more more' : Bytes} (one : Selection method selection)
    (other : Selection method' selection') (same : selection ++ more = selection' ++ more') :
    method = method' ∧ selection = selection' := by
  cases one with
  | anonymous =>
    cases other with
    | anonymous => exact ⟨rfl, rfl⟩
    | password => simp at same
  | password =>
    cases other with
    | anonymous => simp at same
    | password =>
      obtain ⟨rfl, rfl, _⟩ : _ ∧ _ ∧ _ := by simpa using same
      exact ⟨rfl, rfl⟩

/-- Who was asked for a proof settles on a password. -/
theorem Selection.password_of_asked {more rest : Bytes} (settled : Selection method selection)
    (same : selection ++ more = [5, 2] ++ rest) : method = .password := by
  cases settled with
  | anonymous => simp at same
  | password => rfl

/-- What a client is stuck on, with the replies as an equation. -/
theorem Stuck.reason (stuck : Stuck c command target heard f) :
    (∃ more, heard = [5, 2] ++ more ∧ c.proof = .error f)
      ∨ ∃ method selection more, heard = selection ++ more ∧ Selection method selection
        ∧ c.Follows method ∧ Proxy.request command target = .error f := by
  cases stuck with
  | proof more unwritable => exact .inl ⟨more, rfl, unwritable⟩
  | request more settled follows unwritable => exact .inr ⟨_, _, more, rfl, settled, follows, unwritable⟩

/-- Nobody is stuck before a method has been selected. -/
theorem Stuck.selects (stuck : Stuck c command target heard f) :
    ∃ method more, heard = version :: Method.code method :: more := by
  cases stuck with
  | proof more unwritable => exact ⟨.password, more, rfl⟩
  | request more settled follows unwritable =>
    cases settled with
    | anonymous => exact ⟨.anonymous, more, rfl⟩
    | password => exact ⟨.password, _, rfl⟩

/-- Who has a method settled is stuck at most because of the request. -/
theorem Stuck.of_settled {more : Bytes} (stuck : Stuck c command target (selection ++ more) f)
    (settled : Selection method selection) (preamble : Preamble c method said) :
    Proxy.request command target = .error f := by
  rcases stuck.reason with ⟨rest, same, unwritable⟩ | ⟨_, _, _, _, _, _, unwritable⟩
  · obtain rfl := settled.password_of_asked same
    cases preamble with
    | password written =>
      rw [written] at unwritable
      cases unwritable
  · exact unwritable

/-- Who is asked for a proof and can write it is not stuck before the proof is accepted. -/
theorem Stuck.accepted_of_asked {proof more : Bytes} (written : c.proof = .ok proof)
    (stuck : Stuck c command target ([5, 2] ++ more) f) :
    ∃ status second rest, (status = 0 ∨ status = 1) ∧ more = status :: second :: rest := by
  rcases stuck.reason with ⟨_, _, unwritable⟩ | ⟨_, _, rest, same, settled, _, _⟩
  · rw [written] at unwritable
    cases unwritable
  · cases settled with
    | anonymous => simp at same
    | password accepted second =>
      obtain rfl : more = _ := by simpa using same
      exact ⟨_, second, rest, accepted, rfl⟩

/-- Nobody speaks who is stuck. -/
theorem Turn.not_stuck (turn : Turn c command target heard said message) :
    ¬ Stuck c command target heard f := by
  intro stuck
  cases turn with
  | greeting =>
    obtain ⟨_, _, nothing⟩ := stuck.selects
    cases nothing
  | proof written =>
    obtain ⟨_, _, _, _, more⟩ := @Stuck.accepted_of_asked _ _ _ _ _ [] written stuck
    cases more
  | request settled preamble written =>
    rw [← List.append_nil heard] at stuck
    have unwritten := stuck.of_settled settled preamble
    rw [written] at unwritten
    cases unwritten

/-- Nobody speaks who was offended. -/
theorem Turn.not_violation (turn : Turn c command target heard said message) :
    ¬ Violation heard := by
  intro violation
  -- each turn comes after a reply that says too little, or the right thing, to be a violation
  cases turn with
  | greeting =>
    generalize nothing : ([] : Bytes) = heard at violation
    cases violation <;> simp at nothing
  | proof written =>
    generalize asked : ([5, 2] : Bytes) = heard at violation
    cases violation with
    | replyVersion more settled | replyCode more settled | addressType reserved more settled =>
      cases settled <;> simp at asked
    | _ => simp_all
  | request settled preamble written =>
    generalize chosen : heard = octets at violation
    cases violation with
    | replyVersion more settled' | replyCode more settled' | addressType reserved more settled' =>
      obtain ⟨_, rfl⟩ := settled.unique settled' ((List.append_nil heard).trans chosen)
      simp at chosen
    | _ =>
      cases settled <;> simp_all

end

namespace Dialogue

variable {α β : Type}

/-! ### Dialogues that only listen -/

/-- Whether a dialogue sends nothing. -/
def Speechless : Dialogue α → Prop
  | .done _ | .giveUp _ => True
  | .enter _ next => next.Speechless
  | .send _ _ _ => False
  | .await _ _ _ next => ∀ octets, (next octets).Speechless

theorem Speechless.bind {d : Dialogue α} {rest : α → Dialogue β} (first : d.Speechless)
    (later : ∀ a, (rest a).Speechless) : (d >>= rest).Speechless := by
  rw [bind_eq]
  induction d with
  | done a => exact later a
  | giveUp f => exact first
  | enter phase next ih => exact ih first
  | send stage message next ih => exact first.elim
  | await stage ended count next ih => exact fun octets => ih octets (first octets)

theorem Speechless.ofExcept (made : Except Failure.Negotiation α) :
    (ofExcept made).Speechless := by
  cases made <;> trivial

/-- A dialogue that sends nothing obeys a law that allows everything else, whatever is heard. -/
theorem Speechless.obeys {law : Law} {post : α → Bytes → List Bytes → Prop} {d : Dialogue α}
    {heard : Bytes} {said : List Bytes} (speechless : d.Speechless)
    (wait : ∀ more count, law (heard ++ more) said (.wait count))
    (giveUp : ∀ more f, law (heard ++ more) said (.giveUp f))
    (done : ∀ more a, post a (heard ++ more) said) : d.Obeys law post heard said := by
  induction d generalizing heard with
  | done a =>
    have now := done [] a
    rwa [List.append_nil] at now
  | giveUp f =>
    have now := giveUp [] f
    rwa [List.append_nil] at now
  | enter phase next ih => exact ih speechless wait giveUp done
  | send stage message next ih => exact speechless.elim
  | await stage ended count next ih =>
    refine ⟨?_, fun octets _ => ih octets (speechless octets) ?_ ?_ ?_⟩
    · have now := wait [] count
      rwa [List.append_nil] at now
    · intro more
      rw [List.append_assoc]
      exact wait (octets ++ more)
    · intro more
      rw [List.append_assoc]
      exact giveUp (octets ++ more)
    · intro more
      rw [List.append_assoc]
      exact done (octets ++ more)

theorem speechless_hostLength (form : Address.Form) {stated : Dialogue UInt8}
    (listens : stated.Speechless) : (hostLength form stated).Speechless := by
  unfold hostLength
  split
  · trivial
  · exact listens.bind fun _ => trivial

theorem speechless_takeAddress : takeAddress.Speechless := by
  have octet : ∀ stage, (receiveOctet stage).Speechless := fun _ _ => trivial
  refine (octet _).bind fun tag => ?_
  split
  · trivial
  · rename_i form _
    refine (speechless_hostLength form (octet _)).bind fun length => ?_
    refine Speechless.bind (fun _ => trivial) fun host => ?_
    exact Speechless.bind (fun _ => trivial) fun port => .ofExcept _

theorem speechless_skipAddress : skipAddress.Speechless := by
  have one : ∀ stage, (receiveOne stage).Speechless := fun _ _ => trivial
  refine (one _).bind fun tag => ?_
  split
  · trivial
  · rename_i form _
    refine (speechless_hostLength form (one _)).bind fun length => ?_
    exact Speechless.bind (fun _ => trivial) fun _ => trivial

/-- From the report on, a client only listens. -/
theorem speechless_report (command : Command) (header : Bytes) :
    (checkAnswer header >>= fun _ => boundAddress command).Speechless := by
  refine Speechless.bind ?_ fun _ => ?_
  · unfold checkAnswer
    dsimp only
    split <;> trivial
  · cases command with
    | connect => exact speechless_skipAddress.bind fun _ => trivial
    | udpAssociate => exact speechless_takeAddress.bind fun _ => trivial

/-! ### A negotiation obeys the law -/

/-- The law of a negotiation: messages are sent in their turn; a client that is stuck gives up, for
the reason for which it is stuck, and waits for nothing more. -/
def lawOf (c : Credential) (command : Command) (target : Address) : Law
  | heard, said, .say message => Turn c command target heard said message
  | heard, _, .wait count =>
    ∀ got f, got.length < count → ¬ Stuck c command target (heard ++ got) f
  | heard, _, .giveUp f => ∀ f', Stuck c command target heard f' → f' = f

variable {c : Credential} {command : Command} {target : Address} {heard : Bytes}
  {said : List Bytes}

theorem obeys_ofExcept {law : Law} {post : α → Bytes → List Bytes → Prop}
    {made : Except Failure.Negotiation α} :
    (ofExcept made).Obeys law post heard said ↔
      (∀ a, made = .ok a → post a heard said) ∧ ∀ f, made = .error f → law heard said (.giveUp f) := by
  cases made with
  | ok a => simp [ofExcept, Obeys]
  | error f => simp [ofExcept, Obeys]

/-- Once asked for it, the client sends its proof, and goes on if the proof is accepted. -/
theorem obeys_authentication :
    (authentication c).Obeys (lawOf c command target)
      (fun _ heard said => Selection .password heard ∧ Preamble c .password said)
      [5, 2] [c.greeting] := by
  refine obeys_bind.mpr (obeys_ofExcept.mpr ⟨?_, ?_⟩)
  · intro proof written
    refine ⟨.proof written, ?_, ?_⟩
    · intro got f short stuck
      obtain ⟨_, _, rest, _, rfl⟩ := Stuck.accepted_of_asked written stuck
      simp only [List.length_cons] at short
      omega
    · intro octets counted
      obtain ⟨status, second, rfl⟩ := List.length_eq_two.mp counted
      show Obeys _ _ (if status ∈ acceptances then _ else _) _ _
      by_cases accepted : status ∈ acceptances
      · rw [if_pos accepted]
        exact ⟨.password (by simpa [acceptances] using accepted) second, .password written⟩
      · rw [if_neg accepted]
        intro f stuck
        obtain ⟨_, _, _, accepted', same⟩ := Stuck.accepted_of_asked written stuck
        cases same
        exact absurd (by simpa [acceptances] using accepted') accepted
  · intro f unwritten f' stuck
    rcases stuck.reason with ⟨_, _, unwritable⟩ | ⟨method, _, _, same, settled, follows, _⟩
    · rw [unwritten] at unwritable
      cases unwritable
      rfl
    · -- the client could follow, so it could have written its proof
      have asked : method = .password := settled.password_of_asked (same.symm.trans (List.append_nil _).symm)
      obtain ⟨proof, written⟩ := (exists_proof_eq c).mpr (follows asked)
      rw [unwritten] at written
      cases written

/-- The client goes on once a method is settled. -/
theorem obeys_methodSelection (v selected : UInt8) :
    (methodSelection c [v, selected]).Obeys (lawOf c command target)
      (fun _ heard said => ∃ method, Selection method heard ∧ Preamble c method said)
      [v, selected] [c.greeting] := by
  unfold methodSelection
  dsimp only [List.headD_cons, List.tail_cons]
  by_cases spoken : v = version
  · subst spoken
    rw [if_neg (fun wrong => wrong rfl)]
    cases method? : Method.ofCode? selected with
    | none =>
      intro f stuck
      obtain ⟨method, _, same⟩ := stuck.selects
      cases same
      rw [Method.ofCode?_code] at method?
      cases method?
    | some method =>
      obtain rfl := Method.ofCode?_eq_some_iff.mp method?
      cases method with
      | anonymous => exact ⟨.anonymous, .anonymous, .anonymous⟩
      | password =>
        refine obeys_authentication.mono fun _ heard said => ?_
        rintro ⟨settled, preamble⟩
        exact ⟨.password, settled, preamble⟩
  · rw [if_pos spoken]
    intro f stuck
    obtain ⟨_, _, same⟩ := stuck.selects
    cases same
    exact absurd rfl spoken

/-- **A negotiation obeys its law**, and is never stuck when it succeeds. -/
theorem obeys_negotiation (c : Credential) (command : Command) (target : Address) :
    (negotiation c command target).Obeys (lawOf c command target)
      (fun _ heard _ => ∀ f, ¬ Stuck c command target heard f) [] [] := by
  refine ⟨.greeting, ?_, ?_⟩
  · intro got f short stuck
    obtain ⟨_, _, same⟩ := stuck.selects
    rw [List.nil_append] at same
    rw [same] at short
    simp only [List.length_cons] at short
    omega
  · intro reply counted
    obtain ⟨v, selected, rfl⟩ := List.length_eq_two.mp counted
    show Obeys _ _ (methodSelection c [v, selected] >>= _) _ _
    refine obeys_bind.mpr ((obeys_methodSelection v selected).mono fun _ heard said => ?_)
    rintro ⟨method, settled, preamble⟩
    show Obeys _ _ (ofExcept (request command target) >>= _) _ _
    refine obeys_bind.mpr (obeys_ofExcept.mpr ⟨?_, ?_⟩)
    · intro message written
      -- with the request sent, the client only listens, and nothing can get stuck
      have free : ∀ more f, ¬ Stuck c command target (heard ++ more) f := by
        intro more f stuck
        have unwritten := stuck.of_settled settled preamble
        rw [written] at unwritten
        cases unwritten
      refine ⟨.request settled preamble written, fun got f _ => free got f, fun header _ => ?_⟩
      refine (speechless_report command header).obeys ?_ ?_ ?_
      · intro more count got f _
        rw [List.append_assoc, List.append_assoc]
        exact free _ f
      · intro more f f' stuck
        rw [List.append_assoc] at stuck
        exact absurd stuck (free _ f')
      · intro more _ f
        rw [List.append_assoc]
        exact free _ f
    · intro f unwritten f' stuck
      rw [← List.append_nil heard] at stuck
      have same := stuck.of_settled settled preamble
      rw [unwritten] at same
      cases same
      rfl

end Dialogue

end Intercept.Proxy
