import Intercept.Address.Field
import Mathlib.Data.List.Basic

/-!
# The grammar of address fields

Which octet strings are address fields, said without reading or writing one: `01` and six octets,
`04` and eighteen octets, or `03`, a length, and that many octets and two more. A field names an
address unless its name is no text.

## Main statements

* `isField_iff`: a field is a head that announces a host, the host, and a port.
* `exists_encode_eq`: the addresses that can be written.
-/

namespace Intercept

open Bytes (ofBE16 be16 be16_ofBE16)

theorem Ip.V4.exists_octets_eq {octets : Bytes} (four : octets.length = 4) :
    ∃ ip : Ip.V4, ip.octets = octets := by
  match octets, four with
  | [a, b, c, d], _ => exact ⟨⟨a, b, c, d⟩, rfl⟩

theorem Ip.V6.exists_octets_eq {octets : Bytes} (sixteen : octets.length = 16) :
    ∃ ip : Ip.V6, ip.octets = octets := by
  match octets, sixteen with
  | [a0, b0, a1, b1, a2, b2, a3, b3, a4, b4, a5, b5, a6, b6, a7, b7], _ =>
    refine ⟨⟨ofBE16 a0 b0, ofBE16 a1 b1, ofBE16 a2 b2, ofBE16 a3 b3, ofBE16 a4 b4,
      ofBE16 a5 b5, ofBE16 a6 b6, ofBE16 a7 b7⟩, ?_⟩
    simp [Ip.V6.octets, Ip.V6.groups, be16_ofBE16]

namespace Address

/-- An address field, and the address that it names if its name is a text. -/
inductive IsField : Bytes → Option Address → Prop where
  | v4 (ip : Ip.V4) (port : UInt16) :
      IsField (1 :: ip.octets ++ be16 port) (some (.v4 ip port))
  | v6 (ip : Ip.V6) (port : UInt16) :
      IsField (4 :: ip.octets ++ be16 port) (some (ofIp (.v6 ip) port))
  | name {length : UInt8} {host : Bytes} (counted : host.length = length.toNat) (port : UInt16) :
      IsField (3 :: length :: host ++ be16 port) ((Utf8.decode? host).map (.name · port))

/-- What stands before the host of a field, and the number of octets that it announces. -/
inductive Form.IsHead : Form → Bytes → Nat → Prop where
  | v4 : IsHead .v4 [1] 4
  | v6 : IsHead .v6 [4] 16
  | name (length : UInt8) : IsHead .name [3, length] length.toNat

theorem toOption_ofForm_name (host : Bytes) (port : UInt16) :
    (ofForm .name host port).toOption = (Utf8.decode? host).map (.name · port) := by
  cases h : Utf8.decode? host with
  | none => simp [ofForm, h, Except.toOption]
  | some text => simp [ofForm, h, Except.toOption]

/-- **The parts of a field.** A head, as many octets of a host as it announces, and a port. -/
theorem isField_iff {octets : Bytes} {named : Option Address} :
    IsField octets named ↔ ∃ form head host port, Form.IsHead form head host.length
      ∧ octets = head ++ (host ++ be16 port) ∧ named = (ofForm form host port).toOption := by
  constructor
  · intro h
    cases h with
    | v4 ip port => exact ⟨.v4, [1], ip.octets, port, .v4, rfl, rfl⟩
    | v6 ip port =>
      refine ⟨.v6, [4], ip.octets, port, .v6, rfl, ?_⟩
      rw [ofForm_v6]
      rfl
    | @name length host counted port =>
      refine ⟨.name, [3, length], host, port, counted ▸ .name length, rfl, ?_⟩
      rw [toOption_ofForm_name]
  · rintro ⟨form, head, host, port, announced, rfl, rfl⟩
    generalize counted : host.length = count at announced
    cases announced with
    | v4 =>
      obtain ⟨ip, rfl⟩ := Ip.V4.exists_octets_eq counted
      exact .v4 ip port
    | v6 =>
      obtain ⟨ip, rfl⟩ := Ip.V6.exists_octets_eq counted
      rw [ofForm_v6]
      exact .v6 ip port
    | name length =>
      rw [toOption_ofForm_name]
      exact .name counted port

theorem exists_be16_eq {octets : Bytes} (two : octets.length = 2) :
    ∃ port, be16 port = octets := by
  obtain ⟨high, low, rfl⟩ := List.length_eq_two.mp two
  exact ⟨ofBE16 high low, be16_ofBE16 high low⟩

/-! ### Addresses that can be written -/

/-- Whether an address can be written: a name must not be empty and must fit its length octet. -/
def IsEncodable : Address → Prop
  | .v4 _ _ | .v6 _ _ => True
  | .name host _ => 1 ≤ Utf8.size host ∧ Utf8.size host ≤ 255

theorem isEncodable_withPort (a : Address) (port : UInt16) :
    (a.withPort port).IsEncodable ↔ a.IsEncodable := by
  cases a <;> rfl

theorem exists_encode_eq (a : Address) : (∃ field, a.encode = .ok field) ↔ a.IsEncodable := by
  cases a with
  | v4 ip port => exact ⟨fun _ => trivial, fun _ => ⟨_, rfl⟩⟩
  | v6 ip port =>
    refine ⟨fun _ => trivial, fun _ => ?_⟩
    cases mapped : ip.mapped? with
    | none => exact ⟨_, by rw [encode, mapped]⟩
    | some plain => exact ⟨_, by rw [encode, mapped]⟩
  | name host port =>
    show _ ↔ 1 ≤ Utf8.size host ∧ Utf8.size host ≤ 255
    have bound : maxName = 255 := rfl
    by_cases long : maxName < Utf8.size host
    · simp only [encode, if_pos long, reduceCtorEq, exists_false, false_iff]
      omega
    · by_cases empty : Utf8.size host = 0
      · simp only [encode, if_neg long, if_pos empty, reduceCtorEq, exists_false, false_iff]
        omega
      · simp only [encode, if_neg long, if_neg empty, Except.ok.injEq, exists_eq', true_iff]
        omega

end Address

end Intercept
