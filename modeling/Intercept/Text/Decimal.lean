/-!
# Decimal numbers

The decimal text of a natural number: its digits, most significant first, with no leading zero
except for zero itself. Reading is more generous than writing, since the texts that are read (ports,
octets, scopes, settings) differ in whether they admit leading zeros; each of them adds its own
condition to `value?`. Main statement: `value?_digits`, a written number is read back.
-/

namespace Intercept.Decimal

/-! ### Digits -/

/-- The character of a digit below ten. -/
def digit (n : Nat) : Char := Char.ofNat (48 + n)

/-- One of the ten characters from `0` to `9`. -/
def isDigit (c : Char) : Bool := 48 ≤ c.toNat && c.toNat ≤ 57

def digitValue (c : Char) : Nat := c.toNat - 48

theorem toNat_digit {n : Nat} (h : n < 10) : (digit n).toNat = 48 + n := by
  have : ∀ m : Fin 10, (digit m.val).toNat = 48 + m.val := by decide
  exact this ⟨n, h⟩

theorem isDigit_digit {n : Nat} (h : n < 10) : isDigit (digit n) = true := by
  simp [isDigit, toNat_digit h]
  omega

theorem digitValue_digit {n : Nat} (h : n < 10) : digitValue (digit n) = n := by
  simp [digitValue, toNat_digit h]

/-! ### Writing -/

/-- The digits of a number, most significant first. -/
def digits (n : Nat) : List Char :=
  if n < 10 then [digit n] else digits (n / 10) ++ [digit (n % 10)]
termination_by n

def text (n : Nat) : String := String.ofList (digits n)

/-- The decimal text of a number that may be negative. -/
def signedText (n : Int) : String := if n < 0 then "-" ++ text n.natAbs else text n.natAbs

theorem digits_ne_nil (n : Nat) : digits n ≠ [] := by
  rw [digits]
  split <;> simp

theorem all_isDigit_digits (n : Nat) : (digits n).all isDigit = true := by
  fun_induction digits n with
  | case1 n h => simp [isDigit_digit h]
  | case2 n h ih => simp [ih, isDigit_digit (Nat.mod_lt n (by decide))]

/-- Only digits are among the digits of a number. -/
theorem not_mem_digits {c : Char} (other : isDigit c = false) (n : Nat) : c ∉ digits n := by
  intro found
  have digit := List.all_eq_true.mp (all_isDigit_digits n) c found
  rw [other] at digit
  cases digit

/-! ### Reading -/

/-- The number that a list of digits spells. -/
def value (cs : List Char) : Nat := cs.foldl (fun v c => v * 10 + digitValue c) 0

theorem value_append_singleton (cs : List Char) (c : Char) :
    value (cs ++ [c]) = value cs * 10 + digitValue c := by
  simp [value]

theorem value_digits (n : Nat) : value (digits n) = n := by
  fun_induction digits n with
  | case1 n h => simp [value, digitValue_digit h]
  | case2 n h ih =>
    rw [value_append_singleton, ih, digitValue_digit (Nat.mod_lt n (by decide))]
    omega

/-- The digits of a number begin with a zero only if there are no others. -/
theorem length_digits_le_one {n : Nat} (zero : (digits n).head? = some '0') :
    (digits n).length ≤ 1 := by
  fun_induction digits n with
  | case1 n small => exact Nat.le_refl 1
  | case2 n large ih =>
    obtain ⟨c, front, leading⟩ := List.exists_cons_of_ne_nil (digits_ne_nil (n / 10))
    have none : front = [] := by
      rw [leading] at zero ih
      exact List.length_eq_zero_iff.mp (Nat.le_zero.mp (Nat.le_of_succ_le_succ (ih zero)))
    have tens : n / 10 = 0 := by
      rw [← value_digits (n / 10), leading, none]
      rw [leading] at zero
      cases zero
      rfl
    omega

/-- The number spelled by one or more digits; leading zeros are allowed, a sign is not. -/
def value? (cs : List Char) : Option Nat :=
  if !cs.isEmpty && cs.all isDigit then some (value cs) else none

/-- **Round trip.** A written number is read back. -/
theorem value?_digits (n : Nat) : value? (digits n) = some n := by
  have nonempty : (digits n).isEmpty = false := by simpa using digits_ne_nil n
  simp [value?, nonempty, all_isDigit_digits, value_digits]

/-- The number spelled by digits, if it is at most `max`. -/
def upTo? (max : Nat) (cs : List Char) : Option Nat :=
  (value? cs).bind fun n => if n ≤ max then some n else none

theorem upTo?_digits {max n : Nat} (h : n ≤ max) : upTo? max (digits n) = some n := by
  simp [upTo?, value?_digits, h]

end Intercept.Decimal
