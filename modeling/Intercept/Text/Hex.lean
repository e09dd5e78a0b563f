import Intercept.Bytes

/-!
# Hexadecimal text

Two lower-case hexadecimal digits per octet. `encode` and `decode?` are the form in which octets are
shown and given; `tagged` is the form in which a single octet is named in a message (`0x05`).
Numbers of more digits appear in IPv6 text and in escapes. Main statement: `decode?_encode`.
-/

namespace Intercept.Hex

/-! ### Digits -/

/-- The lower-case digit of a number below sixteen. -/
def digit (n : Nat) : Char := if n < 10 then Char.ofNat (48 + n) else Char.ofNat (87 + n)

/-- The number that a digit of either case stands for. -/
def digitValue? (c : Char) : Option Nat :=
  let n := c.toNat
  if 48 ≤ n ∧ n ≤ 57 then some (n - 48)
  else if 97 ≤ n ∧ n ≤ 102 then some (n - 87)
  else if 65 ≤ n ∧ n ≤ 70 then some (n - 55)
  else none

theorem digitValue?_digit {n : Nat} (h : n < 16) : digitValue? (digit n) = some n := by
  have : ∀ m : Fin 16, digitValue? (digit m.val) = some m.val := by decide
  exact this ⟨n, h⟩

/-! ### Numbers -/

/-- The digits of a number, most significant first, with no leading zero except for zero. -/
def digits (n : Nat) : List Char :=
  if n < 16 then [digit n] else digits (n / 16) ++ [digit (n % 16)]
termination_by n

/-- The number that the digits spell, `none` if one of them is no digit. -/
def value? (cs : List Char) : Option Nat :=
  cs.foldlM (fun v c => (digitValue? c).map (v * 16 + ·)) 0

theorem value?_append_singleton (cs : List Char) (c : Char) :
    value? (cs ++ [c]) = (value? cs).bind fun v => (digitValue? c).map (v * 16 + ·) := by
  simp [value?, List.foldlM_append]

theorem value?_digits (n : Nat) : value? (digits n) = some n := by
  fun_induction digits n with
  | case1 n h => simp [value?, digitValue?_digit h]
  | case2 n h ih =>
    rw [value?_append_singleton, ih]
    simp only [Option.bind_some, digitValue?_digit (Nat.mod_lt n (by decide : 0 < 16)),
      Option.map_some, Option.some.injEq]
    omega

theorem digits_ne_nil (n : Nat) : digits n ≠ [] := by
  rw [digits]
  split <;> simp

/-- Only digits are among the digits of a number. -/
theorem not_mem_digits {c : Char} (other : digitValue? c = none) (n : Nat) : c ∉ digits n := by
  have apart {m : Nat} (small : m < 16) : c ≠ digit m := by
    rintro rfl
    rw [digitValue?_digit small] at other
    cases other
  fun_induction digits n with
  | case1 n small => simpa using apart small
  | case2 n large ih => simpa [ih] using apart (Nat.mod_lt n (by decide))

/-- A number has at most one digit more than its sixteenth. -/
theorem length_digits_le_succ {n most : Nat} (fits : (digits (n / 16)).length ≤ most) :
    (digits n).length ≤ most + 1 := by
  rw [digits]
  split
  · exact Nat.succ_le_succ (Nat.zero_le most)
  · rw [List.length_append]
    exact Nat.succ_le_succ fits

theorem length_digits_le_four {n : Nat} (fits : n < 65536) : (digits n).length ≤ 4 := by
  have one : (digits (n / 16 / 16 / 16)).length ≤ 1 := by
    rw [digits, if_pos (by omega)]
    exact Nat.le_refl 1
  exact length_digits_le_succ (length_digits_le_succ (length_digits_le_succ one))

/-- A number with at least `width` digits, filled up with zeros. -/
def padded (width n : Nat) : List Char :=
  let ds := digits n
  List.replicate (width - ds.length) '0' ++ ds

theorem value?_padded (width n : Nat) : value? (padded width n) = some n := by
  have zeros (count : Nat) : value? (List.replicate count '0' ++ digits n) = value? (digits n) := by
    induction count with
    | zero => rfl
    | succ count ih => exact ih
  exact (zeros _).trans (value?_digits n)

theorem length_padded {width n : Nat} (fits : (digits n).length ≤ width) :
    (padded width n).length = width := by
  simp only [padded, List.length_append, List.length_replicate]
  omega

/-! ### Octets -/

/-- The two digits of an octet. -/
def octet (b : UInt8) : List Char := [digit (b.toNat / 16), digit (b.toNat % 16)]

/-- The digits of a string of octets. -/
def chars (bytes : Bytes) : List Char := bytes.flatMap octet

def encode (bytes : Bytes) : String := String.ofList (chars bytes)

/-- The octets that pairs of digits spell. -/
def ofChars? : List Char → Option Bytes
  | [] => some []
  | [_] => none
  | high :: low :: rest => do
    let h ← digitValue? high
    let l ← digitValue? low
    let bytes ← ofChars? rest
    return UInt8.ofNat (h * 16 + l) :: bytes

/-- The octets that a text spells, two digits each. -/
def decode? (s : String) : Option Bytes := ofChars? s.toList

theorem ofChars?_chars (bytes : Bytes) : ofChars? (chars bytes) = some bytes := by
  induction bytes with
  | nil => rfl
  | cons b rest ih =>
    have bound := b.toNat_lt
    have recombine : b.toNat / 16 * 16 + b.toNat % 16 = b.toNat := by omega
    have high : digitValue? (digit (b.toNat / 16)) = some (b.toNat / 16) :=
      digitValue?_digit (by omega)
    have low : digitValue? (digit (b.toNat % 16)) = some (b.toNat % 16) :=
      digitValue?_digit (by omega)
    show ofChars? (digit (b.toNat / 16) :: digit (b.toNat % 16) :: chars rest) = some (b :: rest)
    rw [ofChars?, high, low, ih]
    show some (UInt8.ofNat (b.toNat / 16 * 16 + b.toNat % 16) :: rest) = some (b :: rest)
    rw [recombine, UInt8.ofNat_toNat]

/-- **Round trip.** Octets are read back from their text. -/
theorem decode?_encode (bytes : Bytes) : decode? (encode bytes) = some bytes := by
  simp [decode?, encode, ofChars?_chars]

/-- An octet as messages name it: `0x` and two digits. -/
def tagged (b : UInt8) : String := "0x" ++ String.ofList (octet b)

end Intercept.Hex
