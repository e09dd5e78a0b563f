import Intercept.Proofs.Proxy.Discipline
import Intercept.Proofs.Proxy.Opening
import Intercept.Proofs.Proxy.Transcript

/-!
# Offered methods and selected methods

The greeting lists the methods that a client offers, the password method only if both fields of the
credential are given. The selection that comes back is not held against that list: a client follows
every selection of a method that it knows. So a selection that was not offered is refused unless it
is the password method, and there a client whose credential has one field only sends that field.

## Main statements

* `run_of_unknown`: whoever reads the selection of an unknown method gives up over it.
* `refuses_unlisted_iff`: whose every selection of a method that was not offered is refused, and
  which credentials are never sent.
-/

namespace Intercept.Proxy

open Dialogue

variable {c : Credential} {command : Command} {target : Address} {selected : UInt8}
  {heard part : Bytes} {said : List Bytes}

/-! ### The offer -/

/-- Whether a greeting lists a method; the methods stand behind the version and their number. -/
def Credential.Lists (c : Credential) (selected : UInt8) : Prop := selected ∈ c.greeting.drop 2

theorem Credential.lists_iff :
    c.Lists selected ↔ selected = 0 ∨ (selected = 2 ∧ c.isOffered = true) := by
  show selected ∈ c.methods.map Method.code ↔ _
  unfold Credential.methods
  by_cases offered : c.isOffered = true
  · simp [offered, Method.code]
  · simp [offered, Method.code]

/-! ### Selections that are refused -/

/-- The law of a client that gives up over a selection: it hears the selection in one piece, has
said nothing but its greeting by then, and says why it gives up. -/
def refusal (c : Credential) (selected : UInt8) : Law
  | heard, _, .say _ => ¬ [version, selected] <+: heard
  | heard, _, .wait count =>
    ∀ got : Bytes, got.length < count → ¬ [version, selected] <+: heard ++ got
  | heard, said, .giveUp f => [version, selected] <+: heard →
    heard = [version, selected] ∧ said = [c.greeting] ∧ f = .methodRejected selected

/-- Where a law allows everything from now on, every dialogue obeys it. -/
theorem Dialogue.obeys_of_free {α : Type} {law : Law} {post : α → Bytes → List Bytes → Prop}
    {d : Dialogue α} (free : ∀ more said move, law (heard ++ more) said move)
    (done : ∀ more said a, post a (heard ++ more) said) : d.Obeys law post heard said := by
  induction d generalizing heard said with
  | done a =>
    have now := done [] said a
    rwa [List.append_nil] at now
  | giveUp f =>
    have now := free [] said (.giveUp f)
    rwa [List.append_nil] at now
  | enter phase next ih => exact ih free done
  | send stage message next ih =>
    have now := free [] said (.say message)
    rw [List.append_nil] at now
    exact ⟨now, ih free done⟩
  | await stage ended count next ih =>
    have now := free [] said (.wait count)
    rw [List.append_nil] at now
    refine ⟨now, fun octets _ => ih octets (fun more => ?_) fun more => ?_⟩
    · rw [List.append_assoc]
      exact free (octets ++ more)
    · rw [List.append_assoc]
      exact done (octets ++ more)

theorem not_prefix_of_ne {v octet : UInt8} (other : [v, octet] ≠ [version, selected])
    (more : Bytes) : ¬ [version, selected] <+: [v, octet] ++ more := by
  rintro ⟨rest, same⟩
  exact other (List.append_inj_left same rfl).symm

/-- A client gives up over the selection of a method that it does not know. -/
theorem obeys_refusal (unknown : Method.ofCode? selected = none) :
    (negotiation c command target).Obeys (refusal c selected)
      (fun _ heard _ => ¬ [version, selected] <+: heard) [] [] := by
  refine ⟨by simp [refusal], ?_, ?_⟩
  · intro got short whole
    have := whole.length_le
    simp only [List.nil_append, List.length_cons, List.length_nil] at this short
    omega
  · intro reply counted
    obtain ⟨v, octet, rfl⟩ := List.length_eq_two.mp counted
    show Obeys _ _ (methodSelection c [v, octet] >>= _) [v, octet] [c.greeting]
    by_cases that : [v, octet] = [version, selected]
    · obtain ⟨rfl, rfl⟩ : v = version ∧ octet = selected := by simpa using that
      have refused : methodSelection c [version, octet] = .giveUp (.methodRejected octet) := by
        simp [methodSelection, unknown]
      rw [refused]
      exact fun _ => ⟨rfl, rfl, rfl⟩
    · -- after any other selection the law has nothing to say
      have apart := not_prefix_of_ne that
      refine obeys_of_free (fun more said move => ?_) fun more _ _ => apart more
      cases move with
      | say message => exact apart more
      | wait count =>
        intro got _
        rw [List.append_assoc]
        exact apart (more ++ got)
      | giveUp f => exact fun heardIt => absurd heardIt (apart more)

/-- A conversation that is over, and in which the selection was heard, was given up over it. -/
theorem result_of_refusal {α : Type} {result : Except Talk.Stop α} {t : Talk}
    (standing : Standing (refusal c selected) (fun _ heard _ => ¬ [version, selected] <+: heard)
      (.ended result t) heard said part)
    (selection : [version, selected] <+: heard) :
    result = .error (.failure (.methodRejected selected)) ∧ heard = [version, selected]
      ∧ said = [c.greeting] ∧ part = [] := by
  cases standing with
  | done apart => exact absurd selection apart
  | gaveUp reason =>
    obtain ⟨whole, greeted, rfl⟩ := reason selection
    exact ⟨rfl, whole, greeted, rfl⟩
  | unsaid apart => exact absurd selection apart
  | unheard apart short => exact absurd selection (apart _ short)

namespace Negotiator

/-- What a run read: the selection of a method first, and then no more than is left over. -/
def Hears (stream : Stream) (run : Run) (selected : UInt8) (more : Bytes) : Prop :=
  Stream.dataOf stream.reads = [version, selected] ++ more ++ Stream.dataOf run.stream.reads

/-- Whether a run came to nothing over the selection of a method, and wrote nothing but the
greeting. -/
structure GaveUpOver (c : Credential) (stream : Stream) (run : Run) (selected : UInt8) : Prop where
  outcome : run.outcome = .failed (.methodRejected selected)
  phase : run.negotiator.phase = .failed
  output : run.stream.output = stream.output ++ c.greeting

theorem phase_run_of_failure {deadline horizon : Stream.Limit} {now : Nat} {stream : Stream}
    {f : Failure.Negotiation}
    (failed : ((negotiation c command target).perform (earlier deadline horizon)
      ⟨.init, stream, now⟩).1 = .error (.failure f)) :
    ((fresh c deadline).run horizon command target now stream).negotiator.phase = .failed := by
  simp only [run, fresh, ne_eq, not_true_eq_false, if_false, failed]

/-- **Unknown methods.** Whatever else happens on its stream, a run that has read the selection of a
method that the client does not know reads nothing more and gives up over it. -/
theorem run_of_unknown (unknown : Method.ofCode? selected = none) {deadline horizon : Stream.Limit}
    {now : Nat} {stream : Stream} {more : Bytes}
    (hears : Hears stream ((fresh c deadline).run horizon command target now stream) selected more) :
    more = [] ∧ GaveUpOver c stream ((fresh c deadline).run horizon command target now stream)
      selected := by
  have ends := leads_perform (earlier deadline horizon) (negotiation c command target)
    ⟨.init, stream, now⟩
  have last := stream_run c deadline horizon command target now stream
  obtain ⟨heard, said, part, kept⟩ := kept_of_leads (obeys_refusal unknown) ends
  have whole : heard = [version, selected] ++ more := by
    have read := kept.account.reads
    rw [Hears, last] at hears
    exact List.append_cancel_right (read.symm.trans hears)
  obtain ⟨failed, short, greeted, nothing⟩ :=
    result_of_refusal kept.standing (whole ▸ List.prefix_append _ _)
  refine ⟨?_, outcome_run_of_failure failed, phase_run_of_failure failed, ?_⟩
  · exact List.append_cancel_left ((whole.symm.trans short).trans (List.append_nil _).symm)
  · have written := kept.account.output
    rw [greeted, nothing, List.flatten_singleton, List.append_nil] at written
    rw [last]
    exact written

/-! ### Selections that are followed -/

/-- A proxy that selects a method and says nothing more. -/
def selecting (method : Method) : Stream where
  reads := [.item [version, method.code]]
  writes := []
  flushFault := none
  shutdownFault := none
  written := []
  flushes := 0
  shutdowns := 0

theorem calm_selecting (method : Method) : (selecting method).Calm where
  reads := by simp [selecting, Event.isCalm]
  writes := by simp [selecting]
  flush := rfl

/-- A client that is asked for its proof and hears nothing more. -/
theorem listen_authentication_nil (c : Credential) :
    (authentication c).listen [] = (match c.proof with
      | .ok _ => .error (.io "read auth reply" .earlyEnd)
      | .error f => .error f, []) := by
  unfold authentication
  cases c.proof with
  | ok proof => rfl
  | error f => rfl

theorem speak_authentication_nil {proof : Bytes} (proven : c.proof = .ok proof) :
    (authentication c).speak [] = proof := by
  unfold authentication
  rw [proven]
  exact List.append_nil proof

/-- The selection of a method that the client knows is never what it gives up over. -/
theorem listen_selecting (c : Credential) (method : Method) :
    ∃ f, (negotiation c .udpAssociate anyAddress).listen [version, method.code] = (.error f, [])
      ∧ ∀ selected, f ≠ .methodRejected selected := by
  cases method with
  | anonymous => exact ⟨.io "read reply header" .earlyEnd, rfl, fun _ same => by cases same⟩
  | password =>
    have asked := listen_authentication_nil c
    show ∃ f, (authentication c >>= _).listen [] = _ ∧ _
    simp only [listen_bind, asked]
    cases proven : c.proof with
    | ok proof => exact ⟨_, rfl, fun _ same => by cases same⟩
    | error f =>
      refine ⟨f, rfl, fun selected same => ?_⟩
      rcases proof_eq_error_iff.mp proven with ⟨_, rfl⟩ | ⟨_, _, rfl⟩ <;> cases same

theorem run_selecting (c : Credential) (method : Method) :
    let run := (fresh c none).run none .udpAssociate anyAddress 0 (selecting method)
    Hears (selecting method) run method.code []
      ∧ ∀ selected, run.outcome ≠ .failed (.methodRejected selected) := by
  intro run
  obtain ⟨f, listened, other⟩ := listen_selecting c method
  have calm := calm_selecting method
  have left := (perform_calm (negotiation c .udpAssociate anyAddress)
    (t := ⟨.init, selecting method, 0⟩) calm).2
  constructor
  · have rest : Stream.dataOf run.stream.reads = [] := by
      rw [show run.stream = _ from stream_run ..]
      exact left.trans (congrArg Prod.snd listened)
    rw [Hears, rest]
    rfl
  · intro selected same
    have failed : run.outcome = .failed f := run_calm_error calm 0 listened
    rw [failed] at same
    cases same
    exact other selected rfl

/-- Whether the selection of a method is refused by every run that reads it. -/
def Refuses (c : Credential) (selected : UInt8) : Prop :=
  ∀ (deadline horizon : Stream.Limit) (command : Command) (target : Address) (now : Nat)
    (stream : Stream) (more : Bytes),
    let run := (fresh c deadline).run horizon command target now stream
    Hears stream run selected more → GaveUpOver c stream run selected

/-- Only unknown methods are refused, whichever were offered. -/
theorem refuses_iff : Refuses c selected ↔ Method.ofCode? selected = none := by
  constructor
  · intro refuses
    cases known : Method.ofCode? selected with
    | none => rfl
    | some method =>
      obtain rfl := Method.ofCode?_eq_some_iff.mp known
      obtain ⟨hears, other⟩ := run_selecting c method
      exact absurd (refuses _ _ _ _ _ _ _ hears).outcome (other _)
  · intro unknown deadline horizon command target now stream more run hears
    exact (run_of_unknown unknown hears).2

/-! ### What is sent of a credential -/

/-- Fronts of a proof of identity that end with the first octet of a field. -/
inductive Reaches (c : Credential) : Bytes → Prop where
  | username {count first : UInt8} {rest : Bytes} :
      Utf8.encode c.username = first :: rest → Reaches c [passwordVersion, count, first]
  | password {count count' first : UInt8} {rest : Bytes} : Utf8.encode c.password = first :: rest →
      Reaches c (passwordVersion :: count :: Utf8.encode c.username ++ [count', first])

/-- Whether an octet of a field is among what was written. -/
def Reveals (c : Credential) (written : Bytes) : Prop :=
  ∃ front, Reaches c front ∧ c.greeting ++ front <+: written

/-- Whether no octet of a credential's fields is ever written, on whatever stream. -/
def KeepsToItself (c : Credential) : Prop :=
  ∀ (n : Negotiator) (horizon : Stream.Limit) (command : Command) (target : Address) (now : Nat)
    (stream : Stream) (written : Bytes), n.credential = c →
    (n.run horizon command target now stream).stream.output = stream.output ++ written →
    ¬ Reveals c written

theorem Reaches.head {front : Bytes} (reaches : Reaches c front) :
    ∃ rest, front = passwordVersion :: rest := by
  cases reaches with
  | username _ | password _ => exact ⟨_, rfl⟩

/-- A proof reaches into every field that has an octet. -/
theorem exists_reaches {proof : Bytes} (proven : c.proof = .ok proof) (given : ¬ c.isNone = true) :
    ∃ front, Reaches c front ∧ front <+: proof := by
  obtain ⟨_, _, rfl⟩ := Credential.proof_eq_ok_iff.mp proven
  let countU := UInt8.ofNat (Utf8.size c.username)
  let countP := UInt8.ofNat (Utf8.size c.password)
  cases named : Utf8.encode c.username with
  | cons first rest =>
    exact ⟨[passwordVersion, countU, first], .username named, by simp [countU]⟩
  | nil =>
    cases secret : Utf8.encode c.password with
    | cons first rest =>
      refine ⟨passwordVersion :: countU :: Utf8.encode c.username ++ [countP, first],
        .password secret, ?_⟩
      simp [countU, countP, named]
    | nil =>
      have blank : c.username = "" ∧ c.password = "" :=
        ⟨Utf8.encode_injective named, Utf8.encode_injective secret⟩
      exact absurd (by simp [Credential.isNone, blank]) given

/-- A proxy that asks for the proof is sent all of it. -/
theorem output_run_selecting {proof : Bytes} (proven : c.proof = .ok proof) :
    ((fresh c none).run none .udpAssociate anyAddress 0 (selecting .password)).stream.output
      = c.greeting ++ proof := by
  rw [stream_run]
  refine (output_perform_calm _ (t := ⟨.init, selecting .password, 0⟩)
    (calm_selecting .password)).trans ?_
  have listened := listen_authentication_nil c
  show c.greeting ++ (authentication c >>= _).speak [] = _
  rw [proven] at listened
  rw [speak_bind, listened, speak_authentication_nil proven, List.append_nil]

/-- Where no proof can be written, nothing but the request follows the greeting. -/
theorem speech_of_unwritable (unwritable : ¬ c.IsWritable) (method : Method) :
    ∃ message, (speech c command target method).flatten = c.greeting ++ message
      ∧ (message = [] ∨ ∃ rest, message = version :: rest) := by
  cases method with
  | password =>
    cases proven : c.proof with
    | ok proof => exact absurd ((exists_proof_eq c).mp ⟨proof, proven⟩) unwritable
    | error f => exact ⟨[], by simp [speech, writable, proven], .inl rfl⟩
  | anonymous =>
    cases asked : request command target with
    | error f => exact ⟨[], by simp [speech, writable, asked], .inl rfl⟩
    | ok message =>
      refine ⟨message, by simp [speech, writable, asked], .inr ?_⟩
      unfold request at asked
      split at asked
      · cases asked
        exact ⟨_, rfl⟩
      · cases asked

/-- A proof that cannot be written is not begun. -/
theorem not_reveals_of_unwritable (unwritable : ¬ c.IsWritable) {deadline horizon : Stream.Limit}
    {now : Nat} {stream : Stream} {written : Bytes}
    (output : ((fresh c deadline).run horizon command target now stream).stream.output
      = stream.output ++ written) : ¬ Reveals c written := by
  rintro ⟨front, reaches, begun⟩
  obtain ⟨⟨result, t, ends, last⟩, spoken⟩ :=
    speaks_in_turn c deadline horizon command target now stream
  obtain ⟨heard, said, part, turn⟩ := spoken _ ends
  have same : said.flatten ++ part = written := by
    have whole := turn.written
    rw [show (Moment.ended result t).talk.stream = t.stream from rfl, ← last, output] at whole
    exact (List.append_cancel_left whole).symm
  obtain ⟨message, lines, form⟩ := speech_of_unwritable unwritable (selectedBy heard)
  have fits := turn.front
  rw [same, lines] at fits
  have behind : front <+: message := (List.prefix_append_right_inj _).mp (begun.trans fits)
  obtain ⟨rest, rfl⟩ := reaches.head
  rcases form with rfl | ⟨rest', rfl⟩
  · exact absurd behind.length_le (by simp)
  · exact absurd (List.cons_prefix_cons.mp behind).1 (by decide)

theorem keepsToItself_iff : KeepsToItself c ↔ c.isNone = true ∨ ¬ c.IsWritable := by
  constructor
  · intro keeps
    by_contra sent
    obtain ⟨given, writable⟩ : ¬ c.isNone = true ∧ c.IsWritable := by
      simpa only [not_or, not_not] using sent
    obtain ⟨proof, proven⟩ := (exists_proof_eq c).mpr writable
    obtain ⟨front, reaches, begun⟩ := exists_reaches proven given
    exact keeps (fresh c none) none .udpAssociate anyAddress 0 (selecting .password) _ rfl
      (output_run_selecting proven)
      ⟨front, reaches, (List.prefix_append_right_inj _).mpr begun⟩
  · rintro (blank | unwritable) n horizon command target now stream written rfl output
    · obtain ⟨unnamed, secretless⟩ : n.credential.username = "" ∧ n.credential.password = "" := by
        simpa [Credential.isNone] using blank
      rintro ⟨front, reaches, _⟩
      cases reaches with
      | username named =>
        rw [unnamed] at named
        cases named
      | password secret =>
        rw [secretless] at secret
        cases secret
    · by_cases unused : n.phase = .init
      · obtain ⟨credential, deadline, phase⟩ := n
        cases unused
        exact not_reveals_of_unwritable unwritable output
      · -- a negotiator that has been used leaves the stream alone
        rw [run_of_phase_ne_init unused] at output
        obtain rfl : written = [] := by simpa using output
        rintro ⟨front, reaches, begun⟩
        obtain ⟨rest, rfl⟩ := reaches.head
        exact absurd begun.length_le (by simp)

/-- **Only offered methods are honoured** by a client whose credential has both fields, and by no
other. A client refuses exactly the selections of methods that it does not know, and so every
selection that its greeting does not list exactly if its greeting lists the password method. An octet
of its username or its password is written on some stream exactly if one of them is given, be it
offered or not, and neither is too long. -/
theorem refuses_unlisted_iff (c : Credential) :
    (∀ selected, Refuses c selected ↔ selected ≠ 0 ∧ selected ≠ 2)
    ∧ ((∀ selected, ¬ c.Lists selected → Refuses c selected) ↔ c.isOffered = true)
    ∧ (KeepsToItself c ↔ c.isNone = true ∨ ¬ c.IsWritable) := by
  have refuses (selected : UInt8) : Refuses c selected ↔ selected ≠ 0 ∧ selected ≠ 2 := by
    rw [refuses_iff]
    by_cases zero : selected = 0 <;> by_cases two : selected = 2 <;>
      simp [Method.ofCode?, zero, two]
  refine ⟨refuses, ⟨fun refusesAll => ?_, fun offered selected unlisted => ?_⟩, keepsToItself_iff⟩
  · by_contra unoffered
    have unlisted : ¬ c.Lists 2 := by simp [Credential.lists_iff, unoffered]
    exact ((refuses 2).mp (refusesAll 2 unlisted)).2 rfl
  · rw [Credential.lists_iff] at unlisted
    exact (refuses selected).mpr ⟨fun zero => unlisted (.inl zero),
      fun two => unlisted (.inr ⟨two, offered⟩)⟩

/-- A client that knows a username only offers no method but the anonymous one. A proxy that selects
the password method all the same is sent the username, and the way is opened. -/
theorem half_credential_sent :
    let c : Credential := ⟨"user", ""⟩
    let stream : Stream :=
      { reads := [.item [5, 2], .item [1, 0], .item [5, 0, 0, 1, 0, 0, 0, 0, 0, 0]]
        writes := [], flushFault := none, shutdownFault := none
        written := [], flushes := 0, shutdowns := 0 }
    let run := (fresh c none).connect none (.v4 ⟨1, 2, 3, 4⟩ 80) 0 stream
    ¬ c.Lists 2 ∧ run.outcome = .ok none ∧ run.negotiator.phase = .established
      ∧ run.stream.written
        = [[5, 1, 0], [1, 4, 117, 115, 101, 114, 0], [5, 1, 0, 1, 1, 2, 3, 4, 0, 80]]
      ∧ ¬ Refuses c 2 ∧ ¬ KeepsToItself c := by
  intro c stream run
  have unlisted : ¬ c.Lists 2 := by
    rw [Credential.lists_iff]
    decide
  have writable : c.IsWritable := ⟨by decide, by decide⟩
  refine ⟨unlisted, by decide, by decide, by decide, ?_, ?_⟩
  · rw [refuses_iff]
    decide
  · rw [keepsToItself_iff]
    exact not_or.mpr ⟨by decide, not_not.mpr writable⟩

end Negotiator

end Intercept.Proxy
