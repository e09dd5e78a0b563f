import Intercept.Proofs.Address.Front

/-!
# Writing back what was read

Any octets may hold a field in front. What is read is that field alone: the octets behind it do not
count, and no part of it is enough. Written again, the address gives the same octets, unless the
field is one that is never written: an IPv6 host that stands for an IPv4 host, which is written as
the latter, or a name of no octets, which is not written at all.

## Main statements

* `decode_eq_ok_iff`: what is read is a field in front.
* `decode_take`: a part of a field is not enough.
* `encode_of_isWritten`, `encode_of_isMapped`, `encode_of_isNameless`: what a read field is written
  as.
* `read_write_back`: the law of reading and writing.
-/

namespace Intercept

open Bytes (be16 be16_ofBE16)

theorem Ip.V6.octets_injective {ip other : Ip.V6} (same : ip.octets = other.octets) :
    ip = other := by
  have one := Ip.V6.ofOctets?_octets ip
  rw [same, Ip.V6.ofOctets?_octets] at one
  exact (Option.some.inj one).symm

/-- The octets of an IPv6 host that stands for an IPv4 host. -/
theorem Ip.V6.octets_mapped (ip : Ip.V4) :
    (Ip.V6.mapped ip).octets = List.replicate 10 0 ++ [255, 255] ++ ip.octets := by
  have zero : be16 0 = [0, 0] := rfl
  have ones : be16 0xffff = [255, 255] := rfl
  simp only [Ip.V6.octets, Ip.V6.groups, Ip.V6.mapped, List.flatMap_cons, List.flatMap_nil, zero,
    ones, be16_ofBE16]
  rfl

namespace Address

variable {octets field : Bytes} {named : Option Address} {a : Address} {used : Nat}

/-! ### The field in front -/

/-- **What is read.** An address is read exactly where its field is in front, and only the octets of
the field are used. -/
theorem decode_eq_ok_iff :
    decode octets = .ok (a, used) ↔ ∃ field rest, IsField field (some a)
      ∧ octets = field ++ rest ∧ used = field.length := by
  constructor
  · intro read
    cases beginning octets with
    | nothing => cases read
    | half => cases read
    | @unknown tag rest unknown =>
      rw [decode_unknown unknown] at read
      cases read
    | @head form head count rest announced =>
      rcases short_or_whole count rest with short | ⟨host, port, more, rfl, rfl⟩
      · rw [decode_short announced short] at read
        cases read
      · rw [decode_whole announced] at read
        cases made : ofForm form host port with
        | error e =>
          rw [made] at read
          cases read
        | ok b =>
          rw [made] at read
          cases read
          refine ⟨head ++ (host ++ be16 port), more, ?_, by simp only [List.append_assoc], rfl⟩
          apply isField_iff.mpr
          exact ⟨form, head, host, port, announced, rfl, by rw [made]; rfl⟩
  · rintro ⟨field, rest, isField, rfl, rfl⟩
    obtain ⟨form, head, host, port, announced, rfl, made⟩ := isField_iff.mp isField
    have whole := decode_whole announced port rest
    cases result : ofForm form host port with
    | error e =>
      rw [result] at made
      cases made
    | ok b =>
      rw [result] at made whole
      cases made
      rw [List.append_assoc, whole]

/-- **Part of a field.** Octets that end before a field does are too few. -/
theorem decode_take (isField : IsField field named) {count : Nat} (part : count < field.length) :
    decode (field.take count) = .error (.addressInvalid .truncated) := by
  obtain ⟨form, head, host, port, announced, rfl, -⟩ := isField_iff.mp isField
  by_cases inHead : count < head.length
  · -- no octet, or the first of the two octets in front of a name
    generalize host.length = length at announced
    cases announced with
    | v4 =>
      obtain rfl : count = 0 := Nat.lt_one_iff.mp inHead
      rfl
    | v6 =>
      obtain rfl : count = 0 := Nat.lt_one_iff.mp inHead
      rfl
    | name length =>
      match count, inHead with
      | 0, _ => rfl
      | 1, _ => rfl
  · have split : (head ++ (host ++ be16 port)).take count
        = head ++ (host ++ be16 port).take (count - head.length) := by
      rw [List.take_append, List.take_of_length_le (by omega)]
    rw [split]
    apply decode_short announced
    simp only [List.length_append, Bytes.length_be16, List.length_take] at part ⊢
    omega

/-! ### What a field is written as -/

/-- The three sorts of fields with the addresses that they name. -/
theorem exists_of_isField (isField : IsField field (some a)) :
    (∃ ip port, field = 1 :: ip.octets ++ be16 port ∧ a = .v4 ip port)
    ∨ (∃ ip port, field = 4 :: ip.octets ++ be16 port ∧ a = ofIp (.v6 ip) port)
    ∨ (∃ name port, Utf8.size name ≤ 255
      ∧ field = 3 :: UInt8.ofNat (Utf8.size name) :: Utf8.encode name ++ be16 port
      ∧ a = .name name port) := by
  generalize meant : some a = named at isField
  cases isField with
  | v4 ip port =>
    cases meant
    exact .inl ⟨ip, port, rfl, rfl⟩
  | v6 ip port =>
    cases meant
    exact .inr (.inl ⟨ip, port, rfl, rfl⟩)
  | @name length host counted port =>
    obtain ⟨name, text, rfl⟩ := Option.map_eq_some_iff.mp meant.symm
    obtain rfl := Utf8.eq_encode_of_decode? text
    have size : Utf8.size name = length.toNat := counted
    have bound := length.toNat_lt
    refine .inr (.inr ⟨name, port, by omega, ?_, rfl⟩)
    rw [size, UInt8.ofNat_toNat]

/-- A field whose host is an IPv6 host that stands for an IPv4 host, with the octets of the latter and
of the port. -/
def IsMapped (field host port : Bytes) : Prop :=
  host.length = 4 ∧ port.length = 2 ∧ field = 4 :: List.replicate 10 0 ++ [255, 255] ++ host ++ port

/-- A field whose host is a name of no octets. -/
def IsNameless (field : Bytes) : Prop :=
  ∃ port : Bytes, port.length = 2 ∧ field = 3 :: 0 :: port

theorem encode_of_isMapped (isField : IsField field (some a)) {host port : Bytes}
    (mapped : IsMapped field host port) : a.encode = .ok (1 :: host ++ port) := by
  obtain ⟨four, two, octets⟩ := mapped
  obtain ⟨ip, rfl⟩ := Ip.V4.exists_octets_eq four
  obtain ⟨number, rfl⟩ := exists_be16_eq two
  have meant : field = 4 :: (Ip.V6.mapped ip).octets ++ be16 number := by
    rw [octets, Ip.V6.octets_mapped]
    rfl
  rcases exists_of_isField isField with ⟨_, _, other, _⟩ | ⟨host, port, same, rfl⟩
    | ⟨_, _, _, other, _⟩
  · rw [meant] at other
    cases other
  · rw [meant] at same
    obtain ⟨hosts, ports⟩ := List.append_inj (List.cons.inj same).2 rfl
    obtain rfl := Ip.V6.octets_injective hosts
    obtain rfl := Bytes.be16_injective ports
    rw [ofIp, Ip.collapse_v6_of_mapped? (Ip.V6.mapped?_eq_some_iff.mpr rfl)]
    rfl
  · rw [meant] at other
    cases other

theorem encode_of_isNameless (isField : IsField field (some a)) (nameless : IsNameless field) :
    a.encode = .error (.addressInvalid .emptyName) := by
  obtain ⟨port, _, octets⟩ := nameless
  rcases exists_of_isField isField with ⟨_, _, other, _⟩ | ⟨_, _, other, _⟩
    | ⟨name, number, fits, same, rfl⟩
  · rw [octets] at other
    cases other
  · rw [octets] at other
    cases other
  · -- the length octet says that there is no name
    have none : UInt8.ofNat (Utf8.size name) = 0 := by
      rw [octets] at same
      exact (List.cons.inj (List.cons.inj same).2).1.symm
    have empty : Utf8.size name = 0 := by
      have count := congrArg UInt8.toNat none
      rw [UInt8.toNat_ofNat'] at count
      simp only [UInt8.toNat_zero] at count
      omega
    have notLong : ¬ maxName < Utf8.size name := by
      rw [empty]
      exact Nat.not_lt_zero maxName
    rw [encode, if_neg notLong, if_pos empty]

/-- A field that is of neither kind is written as it was read. -/
theorem encode_of_isWritten (isField : IsField field (some a))
    (plain : ∀ host port, ¬ IsMapped field host port) (called : ¬ IsNameless field) :
    a.encode = .ok field := by
  rcases exists_of_isField isField with ⟨ip, port, rfl, rfl⟩ | ⟨ip, port, rfl, rfl⟩
    | ⟨name, port, fits, rfl, rfl⟩
  · rfl
  · cases stands : ip.mapped? with
    | none => rw [ofIp, Ip.collapse_v6_of_mapped?_none stands, literal, encode, stands]
    | some v4 =>
      have same := Ip.V6.mapped?_eq_some_iff.mp stands
      refine absurd ⟨rfl, rfl, ?_⟩ (plain v4.octets (be16 port))
      rw [same, Ip.V6.octets_mapped]
      rfl
  · have notLong : ¬ maxName < Utf8.size name := Nat.not_lt_of_le fits
    have some : ¬ Utf8.size name = 0 := by
      intro empty
      apply called
      have none : Utf8.encode name = [] := List.eq_nil_of_length_eq_zero empty
      refine ⟨be16 port, rfl, ?_⟩
      rw [none, empty]
      rfl
    rw [encode, if_neg notLong, if_neg some]

/-! ### The law -/

/-- **Reading and writing back.** A field that was read lies within the octets. Any octets that begin
with it are read alike, and no part of it can be read. The address is written as the very octets of
the field, with two exceptions and no others: where they are an IPv6 host that stands for an IPv4
host, the seven octets of the latter are written in the place of nineteen, and where they are a name
of no octets, nothing is written. -/
theorem read_write_back (read : decode octets = .ok (a, used)) :
    used ≤ octets.length
    ∧ (∀ other : Bytes, other.take used = octets.take used → decode other = .ok (a, used))
    ∧ (∀ count < used, decode (octets.take count) = .error (.addressInvalid .truncated))
    ∧ ((∀ buffer, a.write buffer = (.ok (), buffer ++ octets.take used)) ↔
      (∀ host port, ¬ IsMapped (octets.take used) host port) ∧ ¬ IsNameless (octets.take used))
    ∧ (∀ host port, IsMapped (octets.take used) host port →
      used = 19 ∧ (1 :: host ++ port).length = 7
        ∧ ∀ buffer, a.write buffer = (.ok (), buffer ++ (1 :: host ++ port)))
    ∧ (IsNameless (octets.take used) →
      ∀ buffer, a.write buffer = (.error (.addressInvalid .emptyName), buffer)) := by
  obtain ⟨field, rest, isField, rfl, rfl⟩ := decode_eq_ok_iff.mp read
  have front : (field ++ rest).take field.length = field := List.take_left' rfl
  rw [front]
  refine ⟨?_, ?_, ?_, ⟨?_, ?_⟩, ?_, ?_⟩
  · rw [List.length_append]
    exact Nat.le_add_right _ _
  · intro other same
    have whole := List.take_append_drop field.length other
    rw [same] at whole
    exact decode_eq_ok_iff.mpr ⟨field, other.drop field.length, isField, whole.symm, rfl⟩
  · intro count part
    rw [List.take_append_of_le_length (Nat.le_of_lt part)]
    exact decode_take isField part
  · intro same
    have written := same []
    rw [write_eq] at written
    constructor
    · intro host port mapped
      rw [encode_of_isMapped isField mapped, mapped.2.2] at written
      cases written
    · intro nameless
      rw [encode_of_isNameless isField nameless] at written
      cases written
  · rintro ⟨plain, called⟩ buffer
    rw [write_eq, encode_of_isWritten isField plain called]
  · intro host port mapped
    refine ⟨?_, ?_, fun buffer => by rw [write_eq, encode_of_isMapped isField mapped]⟩
    · rw [mapped.2.2, List.length_append, List.length_append, mapped.1, mapped.2.1]
      rfl
    · rw [List.cons_append, List.length_cons, List.length_append, mapped.1, mapped.2.1]
  · intro nameless buffer
    rw [write_eq, encode_of_isNameless isField nameless]

/-- A mapped host, a name of no octets and a name of two octets, each with something behind it. -/
theorem three_read_and_written_back :
    let mapped : Bytes := [4, 0, 0, 0, 0, 0, 0, 0, 0, 0, 0, 255, 255, 1, 2, 3, 4, 0, 80, 9]
    decode mapped = .ok (.v4 ⟨1, 2, 3, 4⟩ 80, 19)
      ∧ decode (mapped.take 18) = .error (.addressInvalid .truncated)
      ∧ (Address.v4 ⟨1, 2, 3, 4⟩ 80).write [5] = (.ok (), [5, 1, 1, 2, 3, 4, 0, 80])
      ∧ decode [3, 0, 0, 80, 9] = .ok (.name "" 80, 4)
      ∧ (Address.name "" 80).write [5] = (.error (.addressInvalid .emptyName), [5])
      ∧ decode [3, 2, 195, 169, 0, 53, 9] = .ok (.name "é" 53, 6)
      ∧ (Address.name "é" 53).write [5] = (.ok (), [5, 3, 2, 195, 169, 0, 53]) := by
  intro mapped
  have readMapped : decode mapped = .ok (.v4 ⟨1, 2, 3, 4⟩ 80, 19) := by decide
  have readNameless : decode [3, 0, 0, 80, 9] = .ok (.name "" 80, 4) := by decide
  have readName : decode [3, 2, 195, 169, 0, 53, 9] = .ok (.name "é" 53, 6) := by decide
  obtain ⟨_, _, parts, _, exception, _⟩ := read_write_back readMapped
  obtain ⟨_, _, written⟩ := exception [1, 2, 3, 4] [0, 80] ⟨rfl, rfl, rfl⟩
  obtain ⟨_, _, _, _, _, unwritten⟩ := read_write_back readNameless
  obtain ⟨_, _, _, same, _, _⟩ := read_write_back readName
  have plain : (∀ host port, ¬ IsMapped [3, 2, 195, 169, 0, 53] host port)
      ∧ ¬ IsNameless [3, 2, 195, 169, 0, 53] := by
    constructor
    · rintro host port ⟨_, _, other⟩
      cases other
    · rintro ⟨port, _, other⟩
      cases other
  exact ⟨readMapped, parts 18 (by decide), written [5], readNameless,
    unwritten ⟨[0, 80], rfl, rfl⟩ [5], readName, same.mpr plain [5]⟩

end Address

end Intercept
