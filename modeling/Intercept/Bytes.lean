/-!
# Octet strings

Everything that travels is a list of octets. This module holds the number layouts that the record
formats share: two-octet numbers with the high octet first (ports, on every wire), and numbers of
any width with the low octet first (the fields of a control record). Main statements: `ofBE16_be16`
and `be16_ofBE16`, by which a port and its two octets determine each other, and `ofLE_le` and
`le_ofLE`, which say the same of a number and its octets.
-/

namespace Intercept

/-- A string of octets. -/
abbrev Bytes := List UInt8

namespace Bytes

/-! ### Two octets, high octet first -/

/-- The two octets of a number, high octet first. -/
def be16 (n : UInt16) : Bytes := [UInt8.ofNat (n.toNat / 256), UInt8.ofNat (n.toNat % 256)]

/-- The number whose high and low octets are given. -/
def ofBE16 (high low : UInt8) : UInt16 := UInt16.ofNat (high.toNat * 256 + low.toNat)

@[simp]
theorem length_be16 (n : UInt16) : (be16 n).length = 2 := rfl

theorem toNat_ofBE16 (high low : UInt8) :
    (ofBE16 high low).toNat = high.toNat * 256 + low.toNat := by
  have h := high.toNat_lt
  have l := low.toNat_lt
  rw [ofBE16, UInt16.toNat_ofNat']
  omega

theorem be16_ofBE16 (high low : UInt8) : be16 (ofBE16 high low) = [high, low] := by
  have l := low.toNat_lt
  have quotient : (high.toNat * 256 + low.toNat) / 256 = high.toNat := by omega
  have remainder : (high.toNat * 256 + low.toNat) % 256 = low.toNat := by omega
  simp [be16, toNat_ofBE16, quotient, remainder]

theorem ofBE16_be16 (n : UInt16) :
    ofBE16 (UInt8.ofNat (n.toNat / 256)) (UInt8.ofNat (n.toNat % 256)) = n := by
  have bound := n.toNat_lt
  apply UInt16.toNat_inj.mp
  rw [toNat_ofBE16, UInt8.toNat_ofNat', UInt8.toNat_ofNat']
  omega

theorem be16_injective {m n : UInt16} (h : be16 m = be16 n) : m = n := by
  simp only [be16, List.cons.injEq, and_true] at h
  rw [← ofBE16_be16 m, ← ofBE16_be16 n, h.1, h.2]

/-! ### Any width, low octet first -/

/-- The number whose octets are given, low octet first. -/
def ofLE : Bytes → Nat
  | [] => 0
  | b :: rest => b.toNat + 256 * ofLE rest

@[simp]
theorem ofLE_nil : ofLE [] = 0 := rfl

theorem ofLE_cons (b : UInt8) (rest : Bytes) : ofLE (b :: rest) = b.toNat + 256 * ofLE rest := rfl

/-- How many numbers can be written in so many octets. -/
def capacity : (width : Nat) → Nat
  | 0 => 1
  | width + 1 => 256 * capacity width

theorem ofLE_lt (bytes : Bytes) : ofLE bytes < capacity bytes.length := by
  induction bytes with
  | nil => simp [capacity]
  | cons b rest ih =>
    have bound := b.toNat_lt
    rw [ofLE_cons, List.length_cons, capacity]
    omega

/-- The `width` low octets of a number, low octet first. -/
def le : (width : Nat) → Nat → Bytes
  | 0, _ => []
  | width + 1, n => UInt8.ofNat (n % 256) :: le width (n / 256)

@[simp]
theorem length_le (width n : Nat) : (le width n).length = width := by
  induction width generalizing n with
  | zero => rfl
  | succ width ih => simp [le, ih]

theorem ofLE_le {width n : Nat} (fits : n < capacity width) : ofLE (le width n) = n := by
  induction width generalizing n with
  | zero => simp only [capacity] at fits; simp [le]; omega
  | succ width ih =>
    have quotient : n / 256 < capacity width := by
      rw [capacity] at fits
      exact Nat.div_lt_of_lt_mul fits
    rw [le, ofLE_cons, ih quotient, UInt8.toNat_ofNat']
    omega

/-- Octets are those of the number that they spell. -/
theorem le_ofLE (bytes : Bytes) : le bytes.length (ofLE bytes) = bytes := by
  induction bytes with
  | nil => rfl
  | cons b rest ih =>
    have bound := b.toNat_lt
    have low : (b.toNat + 256 * ofLE rest) % 256 = b.toNat := by omega
    have high : (b.toNat + 256 * ofLE rest) / 256 = ofLE rest := by omega
    rw [ofLE_cons, List.length_cons, le, low, high, ih, UInt8.ofNat_toNat]

end Bytes

end Intercept
