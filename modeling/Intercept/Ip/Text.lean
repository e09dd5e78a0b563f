import Intercept.Ip
import Intercept.Text.Decimal
import Intercept.Text.Hex

/-!
# The text of internet addresses

An IPv4 address is written as four decimal numbers with dots between them, without leading zeros. An
IPv6 address is written as eight hexadecimal groups with colons between them, where the longest run
of two or more zero groups (the first of the longest) is written `::`; an address that stands for an
IPv4 address is written with that address after `::ffff:`. Reading admits more: leading zeros in a
group, capital digits, `::` for any number of zero groups from one up, and a dotted IPv4 address in
the place of the last two groups.
-/

namespace Intercept.Ip

/-- The pieces between the occurrences of a separator; there is one more piece than there are
separators. -/
def pieces (sep : Char) : List Char → List (List Char)
  | [] => [[]]
  | c :: cs =>
    if c = sep then [] :: pieces sep cs
    else match pieces sep cs with
      | [] => [[c]]
      | piece :: rest => (c :: piece) :: rest

/-- The pieces with the separator written between them. -/
def joined (sep : Char) : List (List Char) → List Char
  | [] => []
  | [piece] => piece
  | piece :: rest => piece ++ sep :: joined sep rest

theorem pieces_ne_nil (sep : Char) (cs : List Char) : pieces sep cs ≠ [] := by
  cases cs with
  | nil => simp [pieces]
  | cons c cs =>
    rw [pieces]
    split
    · simp
    · split <;> simp

theorem joined_pieces (sep : Char) (cs : List Char) : joined sep (pieces sep cs) = cs := by
  induction cs with
  | nil => rfl
  | cons c cs ih =>
    rw [pieces]
    split
    · rename_i h
      cases hp : pieces sep cs with
      | nil => exact absurd hp (pieces_ne_nil sep cs)
      | cons piece rest => rw [hp] at ih; simp [joined, ih, h]
    · cases hp : pieces sep cs with
      | nil => exact absurd hp (pieces_ne_nil sep cs)
      | cons piece rest =>
        rw [hp] at ih
        cases rest with
        | nil => simpa [joined] using ih
        | cons q rest => simpa [joined] using ih

/-! ### IPv4 -/

namespace V4

def chars (ip : V4) : List Char := joined '.' (ip.octets.map fun o => Decimal.digits o.toNat)

def text (ip : V4) : String := String.ofList ip.chars

/-- The octet that a decimal number without leading zeros spells. -/
def octet? (cs : List Char) : Option UInt8 :=
  if cs.head? = some '0' ∧ 1 < cs.length then none
  else (Decimal.upTo? 255 cs).map UInt8.ofNat

def ofChars? (cs : List Char) : Option V4 :=
  match pieces '.' cs with
  | [p, q, r, s] => do return ⟨← octet? p, ← octet? q, ← octet? r, ← octet? s⟩
  | _ => none

end V4

/-! ### IPv6 -/

namespace V6

/-- The length of the run of zero groups at the front of a list. -/
def leadingZeros (gs : List UInt16) : Nat := (gs.takeWhile (· == 0)).length

/-- Where the longest run of zero groups starts and how long it is; the first one of equal runs. -/
def longestRun (start : Nat) : List UInt16 → Nat × Nat
  | [] => (start, 0)
  | g :: gs =>
    let here := leadingZeros (g :: gs)
    let later := longestRun (start + 1) gs
    if later.2 ≤ here then (start, here) else later

def groupChars (gs : List UInt16) : List Char := joined ':' (gs.map fun g => Hex.digits g.toNat)

def chars (ip : V6) : List Char :=
  match ip.mapped? with
  | some plain => "::ffff:".toList ++ plain.chars
  | none =>
    let (start, length) := longestRun 0 ip.groups
    if 2 ≤ length then
      groupChars (ip.groups.take start)
        ++ ':' :: ':' :: groupChars (ip.groups.drop (start + length))
    else groupChars ip.groups

def text (ip : V6) : String := String.ofList ip.chars

/-- The group that one to four hexadecimal digits spell. -/
def group? (cs : List Char) : Option UInt16 :=
  if cs.isEmpty || 4 < cs.length then none else (Hex.value? cs).map UInt16.ofNat

/-- The two groups that a dotted IPv4 address fills. -/
def dotted? (cs : List Char) : Option (List UInt16) :=
  (V4.ofChars? cs).map fun v4 => [Bytes.ofBE16 v4.a v4.b, Bytes.ofBE16 v4.c v4.d]

/-- The groups that a list of pieces spells; the last piece may be a dotted IPv4 address. -/
def groups? (dottedTail : Bool) : List (List Char) → Option (List UInt16)
  | [] => some []
  | [piece] => match group? piece with
    | some g => some [g]
    | none => if dottedTail then dotted? piece else none
  | piece :: rest => do return (← group? piece) :: (← groups? dottedTail rest)

/-- The groups on one side of `::`, where there may be none. -/
def side? (dottedTail : Bool) (cs : List Char) : Option (List UInt16) :=
  if cs.isEmpty then some [] else groups? dottedTail (pieces ':' cs)

/-- What stands before and after the first `::`, if there is one. -/
def splitGap? : List Char → Option (List Char × List Char)
  | ':' :: ':' :: rest => some ([], rest)
  | c :: rest => (splitGap? rest).map fun (front, back) => (c :: front, back)
  | [] => none

def ofChars? (cs : List Char) : Option V6 :=
  match splitGap? cs with
  | none => (groups? true (pieces ':' cs)).bind ofGroups?
  | some (front, back) => do
    let head ← side? false front
    let tail ← side? true back
    if head.length + tail.length ≤ 7 then
      ofGroups? (head ++ List.replicate (8 - head.length - tail.length) 0 ++ tail)
    else none

end V6

/-! ### Both families -/

def text : Ip → String
  | .v4 ip => ip.text
  | .v6 ip => ip.text

def ofChars? (cs : List Char) : Option Ip :=
  match V4.ofChars? cs with
  | some ip => some (.v4 ip)
  | none => (V6.ofChars? cs).map .v6

def ofText? (s : String) : Option Ip := ofChars? s.toList

end Intercept.Ip
