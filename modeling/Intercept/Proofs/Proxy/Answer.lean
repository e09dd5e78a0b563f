import Intercept.Proofs.Address.Grammar
import Intercept.Proofs.Proxy.Listening
import Intercept.Proxy.Negotiation

/-!
# The answers that open a way

What a proxy has to say for a negotiation to succeed, as a grammar: it selects a method and accepts
the proof if it asked for one, it reports success, and it names the bound address. The language of
the negotiation is this grammar, for targets that can be written and clients that can follow.

## Main statements

* `accepts_takeAddress`, `accepts_skipAddress`: what is taken off a stream is an address field.
* `accepts_negotiation`: the language of a negotiation.
* `learns_of_perform`: what a negotiation learns on any stream.
-/

namespace Intercept.Proxy

/-! ### The grammar -/

/-- A selection of a method, with the verdict on the proof if the password method is selected. -/
inductive Selection : Method → Bytes → Prop where
  | anonymous : Selection .anonymous [5, 0]
  | password {status : UInt8} (accepted : status = 0 ∨ status = 1) (second : UInt8) :
      Selection .password [5, 2, status, second]

/-- A whole answer, the method that it selects, and the address that it names. -/
inductive Answer : Method → Option Address → Bytes → Prop where
  | of {method : Method} {named : Option Address} {selection field : Bytes} (reserved : UInt8) :
      Selection method selection → Address.IsField field named →
      Answer method named (selection ++ [5, 0, reserved] ++ field)

def Credential.IsWritable (c : Credential) : Prop :=
  Utf8.size c.username ≤ 255 ∧ Utf8.size c.password ≤ 255

/-- Whether a client with the credential can follow the selection of a method. -/
def Credential.Follows (c : Credential) (method : Method) : Prop :=
  method = .password → c.IsWritable

/-- What a client learns from an answer: the named address if it asked for a relay. -/
def Command.Learns : Command → Option Address → Option Address → Prop
  | .connect, _, bound => bound = none
  | .udpAssociate, named, bound => bound = named ∧ named.isSome

theorem exists_proof_eq (c : Credential) : (∃ message, c.proof = .ok message) ↔ c.IsWritable := by
  constructor
  · rintro ⟨message, h⟩
    obtain ⟨fitsU, fitsP, _⟩ := Credential.proof_eq_ok_iff.mp h
    exact ⟨fitsU, fitsP⟩
  · rintro ⟨fitsU, fitsP⟩
    exact ⟨_, Credential.proof_eq_ok_iff.mpr ⟨fitsU, fitsP, rfl⟩⟩

theorem exists_request_eq (command : Command) (target : Address) :
    (∃ message, request command target = .ok message) ↔ target.IsEncodable := by
  have same : (requested command target).IsEncodable ↔ target.IsEncodable := by
    cases command with
    | udpAssociate => rfl
    | connect =>
      simp only [requested]
      split
      · exact Address.isEncodable_withPort target defaultPort
      · rfl
  rw [← same, ← Address.exists_encode_eq]
  simp only [request]
  cases (requested command target).encode with
  | ok field => simp
  | error e => simp

/-! ### The language of the bound address -/

namespace Dialogue

open Address (Form IsField)

variable {α : Type} {octets : Bytes}

/-- A field's head is read as a form and a length. -/
theorem accepts_head {readTag readLength : Dialogue UInt8}
    (tagged : ∀ {front : Bytes} {tag : UInt8}, readTag.Accepts front tag ↔ front = [tag])
    (stated : ∀ {front : Bytes} {n : UInt8}, readLength.Accepts front n ↔ front = [n])
    {refusal : UInt8 → Failure.Negotiation} {body : Form → Nat → Dialogue α} {a : α} :
    Accepts (do
      let tag ← readTag
      match Form.ofTag? tag with
      | none => giveUp (refusal tag)
      | some form => do
        let length ← hostLength form readLength
        body form length) octets a ↔
    ∃ form head length back, Form.IsHead form head length ∧ octets = head ++ back
      ∧ (body form length).Accepts back a := by
  -- the form decides whether a length octet follows the tag
  rw [accepts_bind]
  constructor
  · rintro ⟨front, back, tag, rfl, first, later⟩
    obtain rfl := tagged.mp first
    cases form? : Form.ofTag? tag with
    | none =>
      rw [form?] at later
      exact later.elim
    | some form =>
      rw [form?] at later
      obtain rfl := Form.ofTag?_eq_some_iff.mp form?
      obtain ⟨front, back, length, rfl, counted, last⟩ := accepts_bind.mp later
      cases form with
      | v4 =>
        obtain ⟨rfl, rfl⟩ := counted
        exact ⟨.v4, _, _, back, .v4, rfl, last⟩
      | v6 =>
        obtain ⟨rfl, rfl⟩ := counted
        exact ⟨.v6, _, _, back, .v6, rfl, last⟩
      | name =>
        obtain ⟨front, _, n, rfl, second, rfl, rfl⟩ := accepts_bind.mp counted
        obtain rfl := stated.mp second
        exact ⟨.name, _, _, back, .name n, rfl, last⟩
  · rintro ⟨form, head, length, back, announced, rfl, last⟩
    cases announced with
    | v4 =>
      exact ⟨[1], back, 1, rfl, tagged.mpr rfl, accepts_bind.mpr ⟨[], back, 4, rfl, ⟨rfl, rfl⟩, last⟩⟩
    | v6 =>
      exact ⟨[4], back, 4, rfl, tagged.mpr rfl, accepts_bind.mpr ⟨[], back, 16, rfl, ⟨rfl, rfl⟩, last⟩⟩
    | name n =>
      have counted : (hostLength .name readLength).Accepts [n] n.toNat :=
        accepts_bind.mpr ⟨[n], [], n, rfl, stated.mpr rfl, rfl, rfl⟩
      exact ⟨[3], n :: back, 3, rfl, tagged.mpr rfl,
        accepts_bind.mpr ⟨[n], back, n.toNat, rfl, counted, last⟩⟩

/-- **Taking an address** takes a field whose name, if it has one, is a text. -/
theorem accepts_takeAddress {a : Address} :
    takeAddress.Accepts octets a ↔ IsField octets (some a) := by
  rw [Address.isField_iff]
  refine (accepts_head accepts_receiveOctet accepts_receiveOctet).trans ?_
  simp only [accepts_receive_bind, accepts_receivePort_bind, accepts_ofExcept]
  constructor
  · rintro ⟨form, head, _, _, announced, rfl, host, _, rfl, rfl, port, _, rfl, rfl, made⟩
    refine ⟨form, head, host, port, announced, by rw [List.append_nil], ?_⟩
    rw [made]
    rfl
  · rintro ⟨form, head, host, port, announced, rfl, named⟩
    have made : Address.ofForm form host port = .ok a := by
      cases h : Address.ofForm form host port with
      | error e => simp [h, Except.toOption] at named
      | ok b => simpa [h, Except.toOption] using named.symm
    exact ⟨form, head, host.length, _, announced, rfl, host, _, rfl, rfl, port, [], by simp, rfl, made⟩

/-- **Skipping an address** takes any field. -/
theorem accepts_skipAddress {u : Unit} :
    skipAddress.Accepts octets u ↔ ∃ named, IsField octets named := by
  simp only [Address.isField_iff]
  refine (accepts_head accepts_receiveOne accepts_receiveOne).trans ?_
  simp only [accepts_receive_bind, accepts_pure]
  constructor
  · rintro ⟨form, head, length, _, announced, rfl, block, _, counted, rfl, rfl, _⟩
    -- the block that is skipped is the host with the port behind it
    have host : (block.take length).length = length := by
      rw [List.length_take]
      omega
    obtain ⟨port, ends⟩ : ∃ port, Bytes.be16 port = block.drop length :=
      Address.exists_be16_eq (by simp [counted])
    refine ⟨_, form, head, block.take length, port, by rwa [host], ?_, rfl⟩
    rw [ends, List.take_append_drop, List.append_nil]
  · rintro ⟨_, form, head, host, port, announced, rfl, _⟩
    exact ⟨form, head, host.length, _, announced, rfl, host ++ Bytes.be16 port, [], by simp,
      by simp, rfl, trivial⟩

theorem accepts_boundAddress {command : Command} {bound : Option Address} :
    (boundAddress command).Accepts octets bound ↔
      ∃ named, IsField octets named ∧ command.Learns named bound := by
  cases command with
  | connect =>
    refine accepts_bind.trans ?_
    constructor
    · rintro ⟨front, _, _, rfl, first, rfl, rfl⟩
      obtain ⟨named, field⟩ := accepts_skipAddress.mp first
      exact ⟨named, by rwa [List.append_nil], rfl⟩
    · rintro ⟨named, field, rfl⟩
      exact ⟨octets, [], (), by simp, accepts_skipAddress.mpr ⟨named, field⟩, rfl, rfl⟩
  | udpAssociate =>
    refine accepts_bind.trans ?_
    constructor
    · rintro ⟨front, _, a, rfl, first, rfl, rfl⟩
      have field := accepts_takeAddress.mp first
      exact ⟨some a, by rwa [List.append_nil], rfl, rfl⟩
    · rintro ⟨named, field, rfl, isText⟩
      obtain ⟨a, rfl⟩ := Option.isSome_iff_exists.mp isText
      exact ⟨octets, [], a, by simp, accepts_takeAddress.mpr field, rfl, rfl⟩

/-! ### The language of a negotiation -/

theorem accepts_authentication {credential : Credential} {u : Unit} :
    (authentication credential).Accepts octets u ↔ credential.IsWritable ∧
      ∃ status second, (status = 0 ∨ status = 1) ∧ octets = [status, second] := by
  simp only [authentication, accepts_ofExcept_bind, accepts_tell_bind, accepts_receive_bind,
    ← exists_proof_eq]
  constructor
  · rintro ⟨message, written, block, back, counted, rfl, later⟩
    obtain ⟨status, second, rfl⟩ := List.length_eq_two.mp counted
    by_cases accepted : status ∈ acceptances
    · rw [List.headD_cons, if_pos accepted] at later
      obtain ⟨rfl, _⟩ := later
      exact ⟨⟨message, written⟩, status, second, by simpa [acceptances] using accepted, rfl⟩
    · rw [List.headD_cons, if_neg accepted] at later
      exact later.elim
  · rintro ⟨⟨message, written⟩, status, second, accepted, rfl⟩
    refine ⟨message, written, [status, second], [], rfl, rfl, ?_⟩
    rw [List.headD_cons, if_pos (by simpa [acceptances] using accepted)]
    exact ⟨rfl, rfl⟩

theorem accepts_methodSelection {credential : Credential} {v selected : UInt8} {u : Unit} :
    (methodSelection credential [v, selected]).Accepts octets u ↔
      ∃ method, Selection method (v :: selected :: octets) ∧ credential.Follows method := by
  constructor
  · intro h
    unfold methodSelection at h
    dsimp only at h
    split at h
    · exact h.elim
    · rename_i spoken
      obtain rfl : v = version := Decidable.not_not.mp spoken
      cases method? : Method.ofCode? selected with
      | none =>
        simp only [List.tail_cons, List.headD_cons, method?] at h
        exact h.elim
      | some method =>
        obtain rfl := Method.ofCode?_eq_some_iff.mp method?
        simp only [List.tail_cons, List.headD_cons, method?] at h
        cases method with
        | anonymous =>
          obtain ⟨rfl, _⟩ := h
          exact ⟨.anonymous, .anonymous, fun impossible => by cases impossible⟩
        | password =>
          obtain ⟨writable, status, second, accepted, rfl⟩ := accepts_authentication.mp h
          exact ⟨.password, .password accepted second, fun _ => writable⟩
  · rintro ⟨method, selection, follows⟩
    cases selection with
    | anonymous => exact ⟨rfl, rfl⟩
    | password accepted second =>
      exact accepts_authentication.mpr ⟨follows rfl, _, second, accepted, rfl⟩

/-- The selection of a method, and what follows it. -/
theorem accepts_selection_bind {stage : String} {credential : Credential} {next : Dialogue α}
    {a : α} :
    Accepts (do
      let reply ← receive stage 2
      methodSelection credential reply
      next) octets a ↔
    ∃ method selection back, Selection method selection ∧ credential.Follows method
      ∧ octets = selection ++ back ∧ next.Accepts back a := by
  rw [accepts_receive_bind]
  constructor
  · rintro ⟨reply, _, two, rfl, h⟩
    obtain ⟨v, selected, rfl⟩ := List.length_eq_two.mp two
    obtain ⟨front, back, _, rfl, chosen, later⟩ := accepts_bind.mp h
    obtain ⟨method, selection, follows⟩ := accepts_methodSelection.mp chosen
    exact ⟨method, _, back, selection, follows, rfl, later⟩
  · rintro ⟨method, selection, back, h, follows, rfl, later⟩
    obtain ⟨v, selected, front, rfl⟩ : ∃ v selected front, selection = v :: selected :: front := by
      cases h with
      | anonymous => exact ⟨_, _, _, rfl⟩
      | password => exact ⟨_, _, _, rfl⟩
    refine ⟨[v, selected], front ++ back, rfl, rfl, ?_⟩
    exact accepts_bind.mpr ⟨front, back, (), rfl, accepts_methodSelection.mpr ⟨method, h, follows⟩, later⟩

/-- The report of success, and what follows it. -/
theorem accepts_report_bind {stage : String} {next : Dialogue α} {a : α} :
    Accepts (do
      let header ← receive stage 3
      checkAnswer header
      next) octets a ↔
    ∃ reserved back, octets = [5, 0, reserved] ++ back ∧ next.Accepts back a := by
  rw [accepts_receive_bind]
  constructor
  · rintro ⟨header, _, three, rfl, h⟩
    obtain ⟨v, code, reserved, rfl⟩ := List.length_eq_three.mp three
    obtain ⟨front, back, _, rfl, checked, later⟩ := accepts_bind.mp h
    unfold checkAnswer at checked
    dsimp only at checked
    split at checked
    · exact checked.elim
    · rename_i refused
      obtain ⟨spoken, granted⟩ := not_or.mp refused
      obtain rfl : v = version := Decidable.not_not.mp spoken
      obtain rfl : code = 0 := Decidable.not_not.mp granted
      obtain ⟨rfl, _⟩ := checked
      exact ⟨reserved, back, rfl, later⟩
  · rintro ⟨reserved, back, rfl, later⟩
    exact ⟨[5, 0, reserved], back, rfl, rfl, later⟩

/-- **The language of a negotiation.** A target that can be written, and an answer that the client
can follow. -/
theorem accepts_negotiation {credential : Credential} {command : Command} {target : Address}
    {bound : Option Address} :
    (negotiation credential command target).Accepts octets bound ↔ target.IsEncodable ∧
      ∃ method named, Answer method named octets ∧ credential.Follows method
        ∧ command.Learns named bound := by
  simp only [negotiation, accepts_tell_bind, accepts_proceed_bind, accepts_selection_bind,
    accepts_ofExcept_bind, accepts_report_bind, accepts_boundAddress,
    ← exists_request_eq command]
  constructor
  · rintro ⟨method, _, _, selection, follows, rfl, message, written, reserved, field, rfl, named,
      isField, learns⟩
    refine ⟨⟨message, written⟩, method, named, ?_, follows, learns⟩
    rw [← List.append_assoc]
    exact .of reserved selection isField
  · rintro ⟨⟨message, written⟩, method, named, ⟨reserved, selection, isField⟩, follows, learns⟩
    exact ⟨method, _, _, selection, follows, List.append_assoc _ _ _, message, written, reserved, _,
      rfl, named, isField, learns⟩

/-- On any stream, a negotiation that succeeds has learned the address that a field names. -/
theorem learns_of_perform {credential : Credential} {command : Command} {target : Address}
    {limit : Stream.Limit} {t : Talk} {bound : Option Address}
    (ok : ((negotiation credential command target).perform limit t).1 = .ok bound) :
    ∃ field named, IsField field named ∧ command.Learns named bound := by
  obtain ⟨octets, accepted⟩ := accepts_of_perform ok
  obtain ⟨_, method, named, answer, _, learns⟩ := accepts_negotiation.mp accepted
  obtain ⟨_, _, field⟩ := answer
  exact ⟨_, named, field, learns⟩

end Dialogue

end Intercept.Proxy
