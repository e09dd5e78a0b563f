import Intercept.Proofs.ControlRecord.FirstMatch
import Intercept.Proofs.Course

/-!
# The walk in machine words

The walk over control records as it is made in words of 64 bits: an offset is kept, the octets from
it on are looked at, and the next offset is reckoned. An addition that overflows a word, a
subtraction below zero, or an octet that is not there would leave a look without a result. None
does, whatever the octets are, since a buffer is far smaller than words can count and a look takes
no number from the octets that the octets do not cover.

## Main statements

* `toNat_and_not_seven`: rounding down to a multiple of eight by masking.
* `destination?_eq`, `record?_eq`: reading asks for no octet that is not there.
* `look?_skip`: where a look goes on, in words and in numbers.
* `exists_look`: every look has a result and goes on by sixteen octets at least.
* `leads_to_answer`: the looks come to an end, with the stated destination.
-/

namespace Intercept.ControlRecord

open Bytes (ofLE)

/-- What no buffer reaches: its octets are counted by a word with a sign. -/
def bufferLimit : Nat := UInt64.size / 2

/-! ### Words -/

/-- The sum of two words, unless it overflows. -/
def add? (m n : UInt64) : Option UInt64 :=
  if m.toNat + n.toNat < UInt64.size then some (m + n) else none

/-- The difference of two words, unless it is below zero. -/
def sub? (m n : UInt64) : Option UInt64 :=
  if n.toNat ≤ m.toNat then some (m - n) else none

/-- The least multiple of eight that is not below a length, by masking. -/
def alignedWord? (length : UInt64) : Option UInt64 := do
  let above ← sub? (← add? length 8) 1
  return above &&& ~~~(7 : UInt64)

theorem exists_add? {m n : UInt64} (fits : m.toNat + n.toNat < UInt64.size) :
    ∃ sum, add? m n = some sum ∧ sum.toNat = m.toNat + n.toNat := by
  refine ⟨m + n, if_pos fits, ?_⟩
  rw [UInt64.toNat_add, Nat.mod_eq_of_lt fits]

theorem exists_sub? {m n : UInt64} (covered : n.toNat ≤ m.toNat) :
    ∃ difference, sub? m n = some difference ∧ difference.toNat = m.toNat - n.toNat := by
  refine ⟨m - n, if_pos covered, ?_⟩
  exact UInt64.toNat_sub_of_le _ _ (UInt64.le_iff_toNat_le.mpr covered)

/-- Masking out the three low bits rounds down to a multiple of eight. -/
theorem toNat_and_not_seven (n : UInt64) : (n &&& ~~~(7 : UInt64)).toNat = n.toNat / 8 * 8 := by
  have shifted : (n &&& ~~~(7 : UInt64)).toBitVec = n.toBitVec >>> 3 <<< 3 := by
    rw [BitVec.shiftLeft_ushiftRight]
    rfl
  -- what is shifted back is no greater than it was, so no bit is lost at the upper end
  have bound := n.toNat_lt
  rw [← UInt64.toNat_toBitVec, shifted, BitVec.toNat_shiftLeft, BitVec.toNat_ushiftRight,
    UInt64.toNat_toBitVec, Nat.shiftRight_eq_div_pow, Nat.shiftLeft_eq, Nat.mod_eq_of_lt (by omega)]

/-- A length is rounded up without an overflow if it is eight below the end of the words. -/
theorem exists_alignedWord? {length : UInt64} (fits : length.toNat + 8 < UInt64.size) :
    ∃ word, alignedWord? length = some word ∧ word.toNat = aligned length.toNat := by
  obtain ⟨sum, added, sumIs⟩ := exists_add? (n := 8) fits
  have eight : sum.toNat = length.toNat + 8 := sumIs
  have one : (1 : UInt64).toNat = 1 := rfl
  obtain ⟨above, subtracted, aboveIs⟩ := exists_sub? (m := sum) (n := 1) (by omega)
  refine ⟨above &&& ~~~(7 : UInt64), ?_, ?_⟩
  · rw [alignedWord?, added]
    simp only [Option.bind_eq_bind, Option.bind_some, subtracted]
    rfl
  · rw [toNat_and_not_seven, aboveIs, eight, one]
    rfl

/-! ### Octets -/

/-- The octets from one place up to another, unless some of them are not there. -/
def slice? (octets : Bytes) (start stop : Nat) : Option Bytes :=
  if start ≤ stop ∧ stop ≤ octets.length then some ((octets.drop start).take (stop - start)) else none

/-- The destination that the data of a record state, every octet asked for by its place. -/
def destination? (variety : Variety) (data : Bytes) : Option (Except Failure.Recovery Address) :=
  if data.length < variety.needed then
    some (.error (.malformed (.short variety.name variety.needed data.length)))
  else do
    let family := ofLE [← data[0]?, ← data[1]?]
    if family ≠ variety.family then
      some (.error (.malformed (.wrongFamily variety.tag family)))
    else
      let port := Bytes.ofBE16 (← data[2]?) (← data[3]?)
      match variety with
      | .v4 => return .ok (.v4 ⟨← data[4]?, ← data[5]?, ← data[6]?, ← data[7]?⟩ port)
      | .v6 => return .ok (.ofIp (.v6 (← Ip.V6.ofOctets? (← slice? data 8 24))) port)

/-- The record at the front of the octets, with its length as it stands in the header. -/
def record? (octets : Bytes) :
    Option (Except Failure.Recovery.Defect (UInt64 × ControlRecord)) :=
  if octets.length < headerLength then
    some (.error (.short "control message header" headerLength octets.length))
  else do
    let length := UInt64.ofNat (ofLE (← slice? octets 0 8))
    let level := ofLE (← slice? octets 8 12)
    let type := ofLE (← slice? octets 12 16)
    if length.toNat < headerLength then
      some (.error (.lengthBelowHeader length.toNat))
    else if octets.length < length.toNat then
      some (.error (.short "control message" length.toNat octets.length))
    else
      -- the data are asked for with nothing in their place if they are not there
      return .ok (length, ⟨level, type, (slice? octets headerLength length.toNat).getD []⟩)

theorem slice?_eq {octets : Bytes} {start stop : Nat} (forth : start ≤ stop)
    (inside : stop ≤ octets.length) :
    slice? octets start stop = some ((octets.drop start).take (stop - start)) :=
  if_pos ⟨forth, inside⟩

theorem exists_four {data : Bytes} (enough : 4 ≤ data.length) :
    ∃ a b c d more, data = a :: b :: c :: d :: more := by
  match data, enough with
  | a :: b :: c :: d :: more, _ => exact ⟨a, b, c, d, more, rfl⟩

/-- **Reading a destination** asks for no octet that is not there. -/
theorem destination?_eq (variety : Variety) (data : Bytes) :
    destination? variety data = some (destination variety data) := by
  by_cases short : data.length < variety.needed
  · rw [destination?, destination, if_pos short, if_pos short]
  · have four : 4 ≤ data.length := by
      cases variety <;> simp only [Variety.needed] at short <;> omega
    obtain ⟨low, high, p, q, rest, rfl⟩ := exists_four four
    have front : (low :: high :: p :: q :: rest).take 2 = [low, high] := rfl
    rw [destination?, destination, if_neg short, if_neg short]
    simp only [List.getElem?_cons_zero, List.getElem?_cons_succ, Option.bind_eq_bind,
      Option.bind_some, front]
    by_cases wrong : ofLE [low, high] ≠ variety.family
    · simp only [if_pos wrong]
    · simp only [if_neg wrong]
      cases variety with
      | v4 =>
        simp only [Variety.needed, List.length_cons] at short
        obtain ⟨a, b, c, d, more, rfl⟩ := exists_four (by omega : 4 ≤ rest.length)
        rfl
      | v6 =>
        have enough : 24 ≤ (low :: high :: p :: q :: rest).length := Nat.le_of_not_lt short
        obtain ⟨ip, host⟩ : ∃ ip : Ip.V6,
            ip.octets = Variety.v6.host (low :: high :: p :: q :: rest) := by
          apply Ip.V6.exists_octets_eq
          rw [Variety.host, List.length_take, List.length_drop]
          omega
        have sliced : slice? (low :: high :: p :: q :: rest) 8 24 = some ip.octets := by
          rw [host]
          exact slice?_eq (by omega) enough
        have made : Address.ofOctets ip.octets (portOf (low :: high :: p :: q :: rest))
            = .ok (.ofIp (.v6 ip) (Bytes.ofBE16 p q)) := Address.ofForm_v6 ip _
        simp only [sliced, Option.bind_some, Ip.V6.ofOctets?_octets, ← host, made]
        rfl

theorem ofLE_take_of_read? {octets : Bytes} {r : ControlRecord} (read : read? octets = .ok r) :
    ofLE (octets.take 8) = r.length := by
  obtain ⟨fits, rest, split⟩ := read?_eq_ok_iff.mp read
  have front : octets.take 8 = Bytes.le 8 r.length := by
    rw [split, layout, List.append_assoc, List.append_assoc, List.append_assoc]
    exact List.take_left' (Bytes.length_le 8 _)
  rw [front, Bytes.ofLE_le fits.length]

/-- **Reading a record** asks for no octet that is not there, whatever length the header states. -/
theorem record?_eq (octets : Bytes) :
    record? octets = some ((read? octets).map fun r => (UInt64.ofNat r.length, r)) := by
  by_cases short : octets.length < headerLength
  · rw [record?, read?, if_pos short, if_pos short]
    rfl
  · have sixteen : 16 ≤ octets.length := Nat.le_of_not_lt short
    have lengthAt : slice? octets 0 8 = some (octets.take 8) := slice?_eq (by omega) (by omega)
    have levelAt : slice? octets 8 12 = some ((octets.drop 8).take 4) :=
      slice?_eq (by omega) (by omega)
    have typeAt : slice? octets 12 16 = some ((octets.drop 12).take 4) :=
      slice?_eq (by omega) (by omega)
    have word : (UInt64.ofNat (ofLE (octets.take 8))).toNat = ofLE (octets.take 8) := by
      rw [UInt64.toNat_ofNat']
      exact Nat.mod_eq_of_lt (ofLE_take_lt (by omega))
    rw [record?, if_neg short, lengthAt, levelAt, typeAt]
    simp only [Option.bind_eq_bind, Option.bind_some, word]
    by_cases below : ofLE (octets.take 8) < headerLength
    · simp only [read?, if_neg short, if_pos below]
      rfl
    · by_cases tooLong : octets.length < ofLE (octets.take 8)
      · simp only [read?, if_neg short, if_neg below, if_pos tooLong]
        rfl
      · have read : read? octets = .ok ⟨ofLE ((octets.drop 8).take 4),
            ofLE ((octets.drop 12).take 4), (octets.take (ofLE (octets.take 8))).drop headerLength⟩ := by
          simp only [read?, if_neg short, if_neg below, if_neg tooLong]
        have data : slice? octets headerLength (ofLE (octets.take 8))
            = some ((octets.take (ofLE (octets.take 8))).drop headerLength) := by
          rw [slice?_eq (by omega) (by omega), List.drop_take]
        have stated := ofLE_take_of_read? read
        rw [read, Except.map, ← stated, data]
        simp only [if_neg below, if_neg tooLong]
        rfl

/-! ### Looks -/

/-- What comes of a look: the answer, or the offset to look from next. -/
inductive Look where
  | answer (result : Except Failure.Recovery Address)
  | next (offset : UInt64)

/-- A look at the octets from an offset on. -/
def look? (control : Bytes) (offset : UInt64) : Option Look :=
  if control.length ≤ offset.toNat then some (.answer (.error .missing))
  else do
    match ← record? (← slice? control offset.toNat control.length) with
    | .error defect => return .answer (.error (.malformed defect))
    | .ok (length, r) => match r.variety? with
      | some variety => return .answer (← destination? variety r.data)
      | none => return .next (← add? offset (← alignedWord? length))

/-- A look that goes on. -/
def step? (control : Bytes) (offset : UInt64) : Option UInt64 :=
  match look? control offset with
  | some (.next following) => some following
  | _ => none

variable {control : Bytes} {offset : UInt64} {r : ControlRecord}

theorem look?_end (passed : control.length ≤ offset.toNat) :
    look? control offset = some (.answer (.error .missing)) := by
  rw [look?, if_pos passed]

theorem slice?_rest (within : offset.toNat < control.length) :
    slice? control offset.toNat control.length = some (control.drop offset.toNat) := by
  rw [slice?_eq (Nat.le_of_lt within) (Nat.le_refl _), List.take_of_length_le]
  exact Nat.le_of_eq List.length_drop

/-- **A look** before the end sees the record that is read there. -/
theorem look?_within (within : offset.toNat < control.length) :
    look? control offset = match read? (control.drop offset.toNat) with
      | .error defect => some (.answer (.error (.malformed defect)))
      | .ok r => match r.variety? with
        | some variety => some (.answer (destination variety r.data))
        | none => do return .next (← add? offset (← alignedWord? (UInt64.ofNat r.length))) := by
  rw [look?, if_neg (Nat.not_le_of_lt within), slice?_rest within]
  simp only [Option.bind_eq_bind, Option.bind_some, record?_eq]
  cases read? (control.drop offset.toNat) with
  | error defect => rfl
  | ok r =>
    simp only [Except.map]
    cases r.variety? with
    | some variety =>
      simp only [destination?_eq]
      rfl
    | none => rfl

theorem look?_defect (within : offset.toNat < control.length) {defect : Failure.Recovery.Defect}
    (read : read? (control.drop offset.toNat) = .error defect) :
    look? control offset = some (.answer (.error (.malformed defect))) := by
  rw [look?_within within, read]

theorem look?_match (within : offset.toNat < control.length) {variety : Variety}
    (read : read? (control.drop offset.toNat) = .ok r) (matching : r.variety? = some variety) :
    look? control offset = some (.answer (destination variety r.data)) := by
  simp only [look?_within within, read, matching]

/-- A look past a record that states no destination goes on behind its padding. -/
theorem look?_skip (held : control.length < bufferLimit) (within : offset.toNat < control.length)
    (read : read? (control.drop offset.toNat) = .ok r) (other : r.variety? = none) :
    ∃ following, look? control offset = some (.next following)
      ∧ following.toNat = offset.toNat + aligned r.length := by
  -- the record lies within the octets, so its length and its end are far from overflowing a word
  obtain ⟨inside, -⟩ := length_le_of_read? read
  rw [List.length_drop] at inside
  rw [bufferLimit] at held
  have words : UInt64.size = 0x10000000000000000 := rfl
  have word : (UInt64.ofNat r.length).toNat = r.length := by
    rw [UInt64.toNat_ofNat']
    exact Nat.mod_eq_of_lt (by omega)
  have far : (UInt64.ofNat r.length).toNat + 8 < UInt64.size := by
    rw [word]
    omega
  obtain ⟨upTo, rounded, upToIs⟩ := exists_alignedWord? far
  rw [word] at upToIs
  have fits : offset.toNat + upTo.toNat < UInt64.size := by
    rw [upToIs, aligned]
    omega
  obtain ⟨following, added, followingIs⟩ := exists_add? fits
  refine ⟨following, ?_, by rw [followingIs, upToIs]⟩
  simp only [look?_within within, read, other, Option.bind_eq_bind, rounded, Option.bind_some, added]
  rfl

/-- **Looks have results**, and one that goes on goes on by sixteen octets at least. -/
theorem exists_look (held : control.length < bufferLimit) (offset : UInt64) :
    ∃ look, look? control offset = some look
      ∧ ∀ following, look = .next following → offset.toNat + 16 ≤ following.toNat := by
  by_cases passed : control.length ≤ offset.toNat
  · exact ⟨_, look?_end passed, by rintro _ ⟨⟩⟩
  · have within : offset.toNat < control.length := Nat.lt_of_not_le passed
    cases read : read? (control.drop offset.toNat) with
    | error defect => exact ⟨_, look?_defect within read, by rintro _ ⟨⟩⟩
    | ok r =>
      cases found : r.variety? with
      | some variety => exact ⟨_, look?_match within read found, by rintro _ ⟨⟩⟩
      | none =>
        obtain ⟨following, look, reached⟩ := look?_skip held within read found
        refine ⟨_, look, ?_⟩
        rintro _ ⟨⟩
        have covered : 16 ≤ r.length := (length_le_of_read? read).2
        have padded := le_aligned r.length
        omega

theorem lt_length_of_drop_eq_cons {octets behind : Bytes} {b : UInt8} {count : Nat}
    (more : octets.drop count = b :: behind) : count < octets.length := by
  by_contra passed
  rw [List.drop_eq_nil_of_le (Nat.le_of_not_lt passed)] at more
  cases more

/-- From any offset the looks come to an end, with the destination that the octets from there on
state. -/
theorem leads_to_answer_from (held : control.length < bufferLimit) {rest : Bytes}
    (behind : control.drop offset.toNat = rest) :
    ∃ last, Leads (step? control) offset last
      ∧ look? control last = some (.answer (statedDestination rest)) := by
  fun_induction statedDestination rest generalizing offset with
  | case1 => exact ⟨offset, .refl, look?_end (List.drop_eq_nil_iff.mp behind)⟩
  | case2 b rest defect read =>
    have within := lt_length_of_drop_eq_cons behind
    exact ⟨offset, .refl, look?_defect within (behind ▸ read)⟩
  | case3 b rest r read variety found =>
    have within := lt_length_of_drop_eq_cons behind
    exact ⟨offset, .refl, look?_match within (behind ▸ read) found⟩
  | case4 b rest r read other ih =>
    have within := lt_length_of_drop_eq_cons behind
    obtain ⟨following, look, reached⟩ := look?_skip held within (behind ▸ read) other
    have later : control.drop following.toNat = (b :: rest).drop (aligned r.length) := by
      rw [reached, ← List.drop_drop, behind]
    obtain ⟨last, leads, answer⟩ := ih later
    have first : step? control offset = some following := by rw [step?, look]
    exact ⟨last, .step first leads, answer⟩

/-- **The looks come to an end**, with the stated destination. -/
theorem leads_to_answer (held : control.length < bufferLimit) :
    ∃ last, Leads (step? control) 0 last
      ∧ look? control last = some (.answer (statedDestination control)) :=
  leads_to_answer_from held rfl

end Intercept.ControlRecord
