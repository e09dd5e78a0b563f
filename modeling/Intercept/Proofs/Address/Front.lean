import Intercept.Proofs.Address.Grammar

/-!
# What octets have in front

Any octets either announce a host in their first one or two, or are too few to do so, or start with
a type that there is none of. Where a host is announced, the field is whole as soon as the host and a
port have come, and what is behind it does not count.

## Main statements

* `beginning`: how octets begin.
* `decode_whole`, `decode_short`, `decode_unknown`: what is read from them.
-/

namespace Intercept.Address

open Bytes (be16 ofBE16 be16_ofBE16)

variable {form : Form} {head : Bytes} {count : Nat}

theorem Form.ofTag?_eq_none_iff {tag : UInt8} :
    ofTag? tag = none ↔ tag ≠ 1 ∧ tag ≠ 3 ∧ tag ≠ 4 := by
  unfold ofTag?
  by_cases one : tag = 1
  · simp [one]
  · by_cases three : tag = 3
    · simp [three]
    · simp [one, three]

/-- How octets begin, as far as the head of a field goes. -/
inductive Beginning : Bytes → Prop where
  | nothing : Beginning []
  | half : Beginning [Form.name.tag]
  | unknown {tag : UInt8} (rest : Bytes) : Form.ofTag? tag = none → Beginning (tag :: rest)
  | head {form : Form} {head : Bytes} {count : Nat} (rest : Bytes) :
      form.IsHead head count → Beginning (head ++ rest)

theorem beginning (octets : Bytes) : Beginning octets := by
  cases octets with
  | nil => exact .nothing
  | cons tag rest =>
    cases announced : Form.ofTag? tag with
    | none => exact .unknown rest announced
    | some form =>
      obtain rfl := Form.ofTag?_eq_some_iff.mp announced
      cases form with
      | v4 => exact .head rest .v4
      | v6 => exact .head rest .v6
      | name =>
        cases rest with
        | nil => exact .half
        | cons length rest => exact .head rest (.name length)

/-- What follows a head is a host and a port with more behind them, or too short. -/
theorem short_or_whole (count : Nat) (rest : Bytes) :
    rest.length < count + 2
      ∨ ∃ host port more, host.length = count ∧ rest = host ++ be16 port ++ more := by
  by_cases short : rest.length < count + 2
  · exact .inl short
  · right
    obtain ⟨port, two⟩ : ∃ port, be16 port = (rest.drop count).take 2 := by
      apply exists_be16_eq
      simp only [List.length_take, List.length_drop]
      omega
    refine ⟨rest.take count, port, (rest.drop count).drop 2, ?_, ?_⟩
    · rw [List.length_take]
      omega
    · rw [two, List.append_assoc, List.take_append_drop, List.take_append_drop]

/-- A host of the announced length makes an address, unless it is a name that is no text. -/
theorem ofForm_announced {host : Bytes} (announced : form.IsHead head host.length)
    (port : UInt16) :
    (∃ a, ofForm form host port = .ok a)
      ∨ ofForm form host port = .error (.addressInvalid .notText) := by
  generalize counted : host.length = count at announced
  cases announced with
  | v4 =>
    obtain ⟨ip, rfl⟩ := Ip.V4.exists_octets_eq counted
    exact .inl ⟨.v4 ip port, rfl⟩
  | v6 =>
    obtain ⟨ip, rfl⟩ := Ip.V6.exists_octets_eq counted
    exact .inl ⟨_, ofForm_v6 ip port⟩
  | name length =>
    cases text : Utf8.decode? host with
    | some name => exact .inl ⟨.name name port, by simp only [ofForm, text]⟩
    | none => exact .inr (by simp only [ofForm, text])

/-! ### Reading what is in front -/

theorem hostAndPort?_short {rest : Bytes} (short : rest.length < count + 2) :
    hostAndPort? count rest = none := by
  have few : (rest.drop count).length < 2 := by
    rw [List.length_drop]
    omega
  unfold hostAndPort?
  split
  · rename_i high low more found
    rw [found] at few
    simp only [List.length_cons] at few
    omega
  · rfl

theorem decode_head (announced : form.IsHead head count) (rest : Bytes) :
    decode (head ++ rest) = decode.body form head.length count rest := by
  cases announced with
  | v4 => rfl
  | v6 => rfl
  | name length => rfl

theorem decode_whole {host : Bytes} (announced : form.IsHead head host.length) (port : UInt16)
    (more : Bytes) :
    decode (head ++ (host ++ be16 port ++ more)) = match ofForm form host port with
      | .ok a => .ok (a, (head ++ (host ++ be16 port)).length)
      | .error e => .error e := by
  have total : (head ++ (host ++ be16 port)).length = head.length + host.length + 2 := by
    simp only [List.length_append, Bytes.length_be16]
    omega
  rw [decode_head announced, total]
  cases made : ofForm form host port with
  | ok a => simp only [decode.body, hostAndPort?_append, made]
  | error e => simp only [decode.body, hostAndPort?_append, made]

theorem decode_short (announced : form.IsHead head count) {rest : Bytes}
    (short : rest.length < count + 2) :
    decode (head ++ rest) = .error (.addressInvalid .truncated) := by
  rw [decode_head announced]
  simp only [decode.body, hostAndPort?_short short]

theorem decode_unknown {tag : UInt8} (unknown : Form.ofTag? tag = none) (rest : Bytes) :
    decode (tag :: rest) = .error (.addressInvalid (.unknownType tag)) := by
  simp only [decode, unknown]

end Intercept.Address
