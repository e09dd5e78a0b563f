import Intercept.Json

/-!
# The tokens of a JSON text

A text is cut into punctuation marks, literals, numbers and strings, with blanks between them left
out. The four blanks are space, tab, line feed and carriage return. A number reaches as far as there
are characters that numbers are made of, and must then be one; a string reaches up to the next quote
that is not escaped, and must not hold a control character.
-/

namespace Intercept.Json

inductive Token where
  | openBrace
  | closeBrace
  | openBracket
  | closeBracket
  | colon
  | comma
  | null
  | bool (b : Bool)
  | natural (n : Nat)
  | number
  | string (content : Option String)
deriving DecidableEq

namespace Token

/-! ### Strings -/

/-- The character that a one-letter escape stands for. -/
def escape? : Char → Option Char
  | '"' => some '"'
  | '\\' => some '\\'
  | '/' => some '/'
  | 'b' => some '\x08'
  | 'f' => some '\x0c'
  | 'n' => some '\n'
  | 'r' => some '\r'
  | 't' => some '\t'
  | _ => none

def hex4? (a b c d : Char) : Option Nat := Hex.value? [a, b, c, d]

/-- The number of each character of a string up to its closing quote, and what follows the quote.
An escape may name a half of a surrogate pair. -/
def stringUnits? : List Char → Option (List Nat × List Char)
  | [] => none
  | '"' :: rest => some ([], rest)
  | '\\' :: 'u' :: a :: b :: c :: d :: rest => do
    let n ← hex4? a b c d
    let (units, after) ← stringUnits? rest
    return (n :: units, after)
  | '\\' :: e :: rest => do
    let c ← escape? e
    let (units, after) ← stringUnits? rest
    return (c.toNat :: units, after)
  | c :: rest =>
    if c.toNat < 0x20 then none
    else (stringUnits? rest).map fun (units, after) => (c.toNat :: units, after)

/-- Whether a number is that of the first half of a surrogate pair. -/
def isHigh (n : Nat) : Bool := 0xd800 ≤ n && n < 0xdc00

/-- Whether a number is that of the second half of a surrogate pair. -/
def isLow (n : Nat) : Bool := 0xdc00 ≤ n && n < 0xe000

/-- The character of a surrogate pair. -/
def pair (high low : Nat) : Char := Char.ofNat (0x10000 + (high - 0xd800) * 0x400 + (low - 0xdc00))

/-- The characters that the numbers spell, `none` if half of a surrogate pair stands alone. -/
def joined? : List Nat → Option (List Char)
  | [] => some []
  | [n] => if isHigh n || isLow n then none else some [Char.ofNat n]
  | n :: m :: rest =>
    if isHigh n then
      if isLow m then (joined? rest).map (pair n m :: ·) else none
    else if isLow n then none
    else (joined? (m :: rest)).map (Char.ofNat n :: ·)

/-- The content of a string whose characters have the given numbers. -/
def contentOf (units : List Nat) : Option String := (joined? units).map String.ofList

theorem stringUnits?_length {cs rest : List Char} {units : List Nat}
    (h : stringUnits? cs = some (units, rest)) : rest.length < cs.length := by
  fun_induction stringUnits? cs generalizing units rest with
  | case1 => cases h
  | case2 cs => cases h; simp
  | case3 a b c d cs ih =>
    simp only [Option.bind_eq_bind, Option.bind_eq_some_iff, Option.pure_def, Option.some.injEq,
      Prod.mk.injEq, Prod.exists] at h
    obtain ⟨n, _, us, after, found, _, rfl⟩ := h
    have := ih found
    simp only [List.length_cons]
    omega
  | case4 e cs _ ih =>
    simp only [Option.bind_eq_bind, Option.bind_eq_some_iff, Option.pure_def, Option.some.injEq,
      Prod.mk.injEq, Prod.exists] at h
    obtain ⟨c, _, us, after, found, _, rfl⟩ := h
    have := ih found
    simp only [List.length_cons]
    omega
  | case5 => cases h
  | case6 c cs _ _ _ _ ih =>
    simp only [Option.map_eq_some_iff, Prod.mk.injEq, Prod.exists] at h
    obtain ⟨us, after, found, _, rfl⟩ := h
    have := ih found
    simp only [List.length_cons]
    omega

/-! ### Numbers -/

/-- Whether numbers are made of this character. -/
def isNumeral (c : Char) : Bool :=
  Decimal.isDigit c || c == '-' || c == '+' || c == '.' || c == 'e' || c == 'E'

def isDigits (cs : List Char) : Bool := !cs.isEmpty && cs.all Decimal.isDigit

/-- Whether the characters are digits without a leading zero. -/
def isWhole (cs : List Char) : Bool := isDigits cs && (cs.head? ≠ some '0' || cs.length == 1)

/-- Whether the characters are an exponent after its mark: digits with or without a sign. -/
def isExponent : List Char → Bool
  | '+' :: cs => isDigits cs
  | '-' :: cs => isDigits cs
  | cs => isDigits cs

/-- Whether the characters after the whole part are a fraction, an exponent, both, or nothing. -/
def isRemainder (cs : List Char) : Bool :=
  let isMark := fun c => c == 'e' || c == 'E'
  let afterFraction := fun (cs : List Char) => match cs with
    | [] => true
    | c :: exponent => isMark c && isExponent exponent
  match cs with
  | '.' :: more =>
    isDigits (more.takeWhile Decimal.isDigit) && afterFraction (more.dropWhile Decimal.isDigit)
  | cs => afterFraction cs

def number? (cs : List Char) : Option Token :=
  if isWhole cs then some (.natural (Decimal.value cs))
  else
    let unsigned := match cs with
      | '-' :: rest => rest
      | cs => cs
    if isWhole (unsigned.takeWhile Decimal.isDigit)
        && isRemainder (unsigned.dropWhile Decimal.isDigit) then some .number
    else none

/-! ### Texts -/

/-- Whether a character is left out between tokens. -/
def isBlank (c : Char) : Bool := c == ' ' || c == '\t' || c == '\n' || c == '\r'

def mark? : Char → Option Token
  | '\x7b' => some .openBrace
  | '\x7d' => some .closeBrace
  | '[' => some .openBracket
  | ']' => some .closeBracket
  | ':' => some .colon
  | ',' => some .comma
  | _ => none

/-- A literal at the front of the characters, and what follows it. -/
def literal? : List Char → Option (Token × List Char)
  | 't' :: 'r' :: 'u' :: 'e' :: rest => some (.bool true, rest)
  | 'f' :: 'a' :: 'l' :: 's' :: 'e' :: rest => some (.bool false, rest)
  | 'n' :: 'u' :: 'l' :: 'l' :: rest => some (.null, rest)
  | _ => none

/-- The token at the front of the characters, and what follows it. -/
def next? (cs : List Char) : Option (Token × List Char) :=
  match cs with
  | [] => none
  | c :: rest =>
    match mark? c with
    | some t => some (t, rest)
    | none =>
      if c = '"' then
        (stringUnits? rest).map fun (units, after) => (.string (contentOf units), after)
      else if isNumeral c then
        (number? ((c :: rest).takeWhile isNumeral)).map (·, rest.dropWhile isNumeral)
      else literal? (c :: rest)

theorem next?_length {cs rest : List Char} {t : Token} (h : next? cs = some (t, rest)) :
    rest.length < cs.length := by
  unfold next? at h
  split at h
  · cases h
  · rename_i c cs
    split at h
    · cases h; simp
    · split at h
      · simp only [Option.map_eq_some_iff, Prod.mk.injEq, Prod.exists] at h
        obtain ⟨units, after, found, _, rfl⟩ := h
        have := stringUnits?_length found
        simp only [List.length_cons]
        omega
      · split at h
        · simp only [Option.map_eq_some_iff, Prod.mk.injEq] at h
          obtain ⟨_, _, _, rfl⟩ := h
          have := (List.dropWhile_sublist isNumeral (l := cs)).length_le
          simp only [List.length_cons]
          omega
        · unfold literal? at h
          split at h
          · rename_i eq; cases h; rw [eq]; simp only [List.length_cons]; omega
          · rename_i eq; cases h; rw [eq]; simp only [List.length_cons]; omega
          · rename_i eq; cases h; rw [eq]; simp only [List.length_cons]; omega
          · cases h

def scan? (cs : List Char) : Option (List Token) :=
  match cs with
  | [] => some []
  | c :: rest =>
    if isBlank c then scan? rest
    else match _found : next? (c :: rest) with
      | none => none
      | some (t, after) => (scan? after).map (t :: ·)
termination_by cs.length
decreasing_by
  · simp
  · exact next?_length _found

end Token

end Intercept.Json
