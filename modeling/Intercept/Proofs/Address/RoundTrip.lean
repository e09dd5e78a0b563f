import Intercept.Proofs.Address.Grammar

/-!
# Writing addresses and reading them back

A field that was written says of itself where it ends, so fields written one after the other are
read back one after the other, each as the canonical form of its address. Addresses with one
canonical form are written alike, and no others.

## Main statements

* `announced_encode`: a field has the length and the type octet that its address announces.
* `encode_canonical`, `encode_eq_iff`: what a field keeps of its address.
* `exists_writeAll`: fields one after the other are written, and read back in order.
* `write_read_back`: the law of writing and reading.
-/

namespace Intercept.Address

open Bytes (be16)

variable {a b : Address} {field : Bytes}

/-! ### One field -/

/-- The length and the type octet of a field are those that the address announces. -/
theorem announced_encode (h : a.encode = .ok field) :
    field.length = a.fieldLength ∧ field.head? = some a.tag := by
  cases a with
  | v4 ip port =>
    cases h
    exact ⟨rfl, rfl⟩
  | v6 ip port =>
    simp only [encode] at h
    cases mapped : ip.mapped? with
    | some plain =>
      rw [mapped] at h
      cases h
      simp [fieldLength, tag, form, mapped, encodeV4, Form.tag]
    | none =>
      rw [mapped] at h
      cases h
      simp [fieldLength, tag, form, mapped, Form.tag]
  | name host port =>
    simp only [encode] at h
    split at h
    · cases h
    · split at h
      · cases h
      · cases h
        refine ⟨?_, rfl⟩
        simp only [fieldLength, Utf8.size, List.length_append, List.length_cons,
          Bytes.length_be16]
        omega

/-- An address and its canonical form are written alike. -/
theorem encode_canonical (a : Address) : a.canonical.encode = a.encode := by
  cases a with
  | v4 ip port => rfl
  | v6 ip port =>
    cases mapped : ip.mapped? with
    | some plain =>
      rw [canonical, ofIp, Ip.collapse_v6_of_mapped? mapped, literal, encode, encode, mapped]
    | none => rw [canonical, ofIp, Ip.collapse_v6_of_mapped?_none mapped, literal]
  | name host port => rfl

/-- **What a field says.** Two addresses, one of which can be written, are written alike exactly if
they have one canonical form. -/
theorem encode_eq_iff (h : a.encode = .ok field) :
    a.encode = b.encode ↔ a.canonical = b.canonical := by
  constructor
  · intro same
    have one := decode_encode [] h
    have other := decode_encode [] (same ▸ h)
    rw [one] at other
    exact congrArg Prod.fst (Except.ok.inj other)
  · intro same
    rw [← encode_canonical a, same, encode_canonical b]

/-- Why an address cannot be written. -/
theorem encode_of_not_isEncodable (unfit : ¬ a.IsEncodable) :
    ∃ host port, a = .name host port
      ∧ ((255 < Utf8.size host ∧ a.encode = .error (.nameTooLong (Utf8.size host)))
        ∨ (host = "" ∧ a.encode = .error (.addressInvalid .emptyName))) := by
  cases a with
  | v4 ip port => exact absurd trivial unfit
  | v6 ip port => exact absurd trivial unfit
  | name host port =>
    have limit : maxName = 255 := rfl
    refine ⟨host, port, rfl, ?_⟩
    by_cases long : maxName < Utf8.size host
    · left
      exact ⟨long, by rw [encode, if_pos long]⟩
    · right
      have empty : Utf8.size host = 0 := by
        by_contra some
        exact unfit ⟨by omega, by omega⟩
      refine ⟨?_, by rw [encode, if_neg long, if_pos empty]⟩
      have none : Utf8.encode host = Utf8.encode "" := List.eq_nil_of_length_eq_zero empty
      exact Utf8.encode_injective none

/-! ### Fields one after the other -/

theorem used_pos {octets : Bytes} {used : Nat} (h : decode octets = .ok (a, used)) :
    0 < used := by
  have body : ∀ form start length rest, 0 < start →
      decode.body form start length rest = .ok (a, used) → 0 < used := by
    intro form start length rest positive read
    simp only [decode.body] at read
    split at read
    · cases read
    · split at read
      · cases read
        omega
      · cases read
  simp only [decode] at h
  split at h
  · cases h
  · split at h
    · cases h
    · split at h
      · exact body _ _ _ _ (by omega) h
      · split at h
        · cases h
        · exact body _ _ _ _ (by omega) h

/-- Reads fields one after the other until the octets end. -/
def decodeAll (octets : Bytes) : Except Failure.Negotiation (List Address) :=
  match octets with
  | [] => .ok []
  | b :: rest => match _read : decode (b :: rest) with
    | .error e => .error e
    | .ok (a, used) => match decodeAll ((b :: rest).drop used) with
      | .error e => .error e
      | .ok others => .ok (a :: others)
termination_by octets.length
decreasing_by
  have := used_pos _read
  simp only [List.length_drop, List.length_cons]
  omega

/-- Writes addresses one after the other behind what a buffer holds. -/
def writeAll (addresses : List Address) (buffer : Bytes) : Bytes :=
  addresses.foldl (fun buffer a => (a.write buffer).2) buffer

theorem write_of_encode (h : a.encode = .ok field) (buffer : Bytes) :
    a.write buffer = (.ok (), buffer ++ field) := by
  rw [write_eq, h]

theorem decodeAll_append (h : a.encode = .ok field) {rest : Bytes} {others : List Address}
    (read : decodeAll rest = .ok others) :
    decodeAll (field ++ rest) = .ok (a.canonical :: others) := by
  obtain ⟨counted, tagged⟩ := announced_encode h
  have first := decode_encode rest h
  have left : (field ++ rest).drop a.fieldLength = rest := List.drop_left' counted
  cases field with
  | nil => cases tagged
  | cons t more =>
    rw [List.cons_append] at first left ⊢
    rw [decodeAll]
    split
    · rename_i e failed
      rw [first] at failed
      cases failed
    · rename_i b used found
      rw [first] at found
      cases found
      rw [left, read]

/-- **Fields one after the other** are read back in order. -/
theorem exists_writeAll {addresses : List Address} (fit : ∀ a ∈ addresses, a.IsEncodable)
    (buffer : Bytes) : ∃ fields, writeAll addresses buffer = buffer ++ fields
      ∧ decodeAll fields = .ok (addresses.map canonical) := by
  induction addresses generalizing buffer with
  | nil =>
    refine ⟨[], (List.append_nil buffer).symm, ?_⟩
    rw [decodeAll]
    rfl
  | cons a others ih =>
    obtain ⟨first, later⟩ := List.forall_mem_cons.mp fit
    obtain ⟨field, encoded⟩ := (exists_encode_eq a).mpr first
    obtain ⟨fields, written, read⟩ := ih later (buffer ++ field)
    refine ⟨field ++ fields, ?_, decodeAll_append encoded read⟩
    rw [← List.append_assoc, ← written]
    show others.foldl _ (a.write buffer).2 = _
    rw [write_of_encode encoded]
    rfl

/-! ### The law -/

/-- **Writing and reading.** Writing succeeds exactly for the addresses that can be written. It then
appends one field, of the announced length and type, which is read back as the canonical form of the
address whatever follows it. Where it fails, for a name that is too long or empty, the buffer is what
it was. Fields written one after the other are read back in order. And two addresses are written
alike exactly if they have one canonical form. -/
theorem write_read_back :
    (∀ (a : Address) (buffer : Bytes), (a.write buffer).1 = .ok () ↔ a.IsEncodable)
    ∧ (∀ (a : Address) (buffer rest : Bytes), a.IsEncodable →
      ∃ field, (a.write buffer).2 = buffer ++ field ∧ field.length = a.fieldLength
        ∧ field.head? = some a.tag
        ∧ decode (field ++ rest) = .ok (a.canonical, a.fieldLength))
    ∧ (∀ (a : Address) (buffer : Bytes), ¬ a.IsEncodable → ∃ host port, a = .name host port
      ∧ ((255 < Utf8.size host ∧ a.write buffer = (.error (.nameTooLong (Utf8.size host)), buffer))
        ∨ (host = "" ∧ a.write buffer = (.error (.addressInvalid .emptyName), buffer))))
    ∧ (∀ addresses : List Address, (∀ a ∈ addresses, a.IsEncodable) →
      decodeAll (writeAll addresses []) = .ok (addresses.map canonical))
    ∧ (∀ (a b : Address) (buffer : Bytes), a.IsEncodable →
      (a.write buffer = b.write buffer ↔ a.canonical = b.canonical)) := by
  refine ⟨?_, ?_, ?_, ?_, ?_⟩
  · intro a buffer
    rw [← exists_encode_eq a, write_eq]
    cases a.encode with
    | ok field => simp
    | error e => simp
  · intro a buffer rest fits
    obtain ⟨field, encoded⟩ := (exists_encode_eq a).mpr fits
    obtain ⟨counted, tagged⟩ := announced_encode encoded
    exact ⟨field, by rw [write_of_encode encoded], counted, tagged, decode_encode rest encoded⟩
  · intro a buffer unfit
    obtain ⟨host, port, named, reason⟩ := encode_of_not_isEncodable unfit
    refine ⟨host, port, named, ?_⟩
    rcases reason with ⟨long, failed⟩ | ⟨empty, failed⟩
    · exact .inl ⟨long, by rw [write_eq, failed]⟩
    · exact .inr ⟨empty, by rw [write_eq, failed]⟩
  · intro addresses fit
    obtain ⟨fields, written, read⟩ := exists_writeAll fit []
    rw [written]
    exact read
  · intro a b buffer fits
    obtain ⟨field, encoded⟩ := (exists_encode_eq a).mpr fits
    rw [← encode_eq_iff encoded, write_eq, write_eq, encoded]
    cases b.encode with
    | ok other => simp
    | error e => simp

/-- A literal, a mapped literal and a name of two octets, one after the other; the mapped literal is
written as what it stands for, and an empty name is not written. -/
theorem three_written_and_read_back :
    let mapped := Address.v6 (.mapped ⟨1, 2, 3, 4⟩) 80
    let addresses := [.v6 ⟨8193, 0, 0, 0, 0, 0, 0, 1⟩ 443, mapped, .name "é" 53]
    decodeAll (writeAll addresses [])
        = .ok [.v6 ⟨8193, 0, 0, 0, 0, 0, 0, 1⟩ 443, .v4 ⟨1, 2, 3, 4⟩ 80, .name "é" 53]
      ∧ mapped.write [5, 1, 0] = (Address.v4 ⟨1, 2, 3, 4⟩ 80).write [5, 1, 0]
      ∧ ((Address.name "" 1).write [9]).2 = [9] := by
  intro mapped addresses
  obtain ⟨_, _, fails, inOrder, alike⟩ := write_read_back
  have counted : (Address.name "é" 53).IsEncodable := ⟨by decide, by decide⟩
  have fit : ∀ a ∈ addresses, a.IsEncodable := by
    simp only [addresses, mapped, List.forall_mem_cons]
    exact ⟨trivial, trivial, counted, by simp⟩
  have unfit : ¬ (Address.name "" 1).IsEncodable := by
    intro encodable
    exact absurd encodable.1 (by decide)
  refine ⟨inOrder addresses fit, (alike mapped _ [5, 1, 0] trivial).mpr rfl, ?_⟩
  obtain ⟨_, _, _, ⟨_, written⟩ | ⟨_, written⟩⟩ := fails _ [9] unfit
  · rw [written]
  · rw [written]

end Intercept.Address
