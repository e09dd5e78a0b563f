import Intercept.Text.Decimal
import Intercept.Text.Hex

/-!
# JSON values

Values of the text format in which settings and statistics are written. Numbers that matter here are
naturals; of any other number only its presence is kept. A string may spell half of a surrogate
pair, which is no character; such a string has no content, and is fit only for places that nobody
reads.

A value is written without blanks (`Json.text`), or with each member on a line of its own
(`Json.pretty`).
-/

namespace Intercept

inductive Json where
  | null
  | bool (b : Bool)
  | natural (n : Nat)
  /-- A number that is not written as a natural. -/
  | number
  /-- A string; no content if it spells half of a surrogate pair. -/
  | string (content : Option String)
  | array (elements : List Json)
  | object (members : List (Option String × Json))

namespace Json

def ofString (s : String) : Json := .string (some s)

def ofMembers (members : List (String × Json)) : Json :=
  .object (members.map fun (key, value) => (some key, value))

/-! ### Strings -/

/-- The four digits that name a character in an escape. -/
def hex4 (n : Nat) : List Char := Hex.padded 4 n

/-- How a character is written in a string. -/
def escaped (c : Char) : List Char :=
  match c with
  | '"' => ['\\', '"']
  | '\\' => ['\\', '\\']
  | '\x08' => ['\\', 'b']
  | '\x0c' => ['\\', 'f']
  | '\n' => ['\\', 'n']
  | '\r' => ['\\', 'r']
  | '\t' => ['\\', 't']
  | c => if c.toNat < 0x20 then '\\' :: 'u' :: hex4 c.toNat else [c]

/-- How a content is written as a string. -/
def quoted (s : String) : List Char := '"' :: s.toList.flatMap escaped ++ ['"']

/-- How a string is written; one without a content is written as an empty one. -/
def stringChars (content : Option String) : List Char := quoted (content.getD "")

/-! ### Values -/

mutual

def chars : Json → List Char
  | .null => "null".toList
  | .bool true => "true".toList
  | .bool false => "false".toList
  | .natural n => Decimal.digits n
  | .number => ['0']
  | .string content => stringChars content
  | .array elements => '[' :: elementChars elements
  | .object members => '\x7b' :: memberChars members

/-- The characters of the elements of an array and of the bracket that closes it. -/
def elementChars : List Json → List Char
  | [] => [']']
  | [v] => chars v ++ [']']
  | v :: w :: rest => chars v ++ ',' :: elementChars (w :: rest)

/-- The characters of the members of an object and of the brace that closes it. -/
def memberChars : List (Option String × Json) → List Char
  | [] => ['\x7d']
  | [(key, v)] => stringChars key ++ ':' :: chars v ++ ['\x7d']
  | (key, v) :: m :: rest => stringChars key ++ ':' :: chars v ++ ',' :: memberChars (m :: rest)

end

def text (v : Json) : String := String.ofList v.chars

/-! ### On many lines -/

/-- The start of a line at a depth: two blanks for each level. -/
def line (depth : Nat) : List Char := '\n' :: List.replicate (2 * depth) ' '

mutual

/-- The characters of a value at a depth, each element and member on a line of its own. -/
def prettyChars (depth : Nat) : Json → List Char
  | .array [] => ['[', ']']
  | .array (v :: rest) => '[' :: prettyElements depth (v :: rest)
  | .object [] => ['\x7b', '\x7d']
  | .object (m :: rest) => '\x7b' :: prettyMembers depth (m :: rest)
  | .null => chars .null
  | .bool b => chars (.bool b)
  | .natural n => chars (.natural n)
  | .number => chars .number
  | .string content => chars (.string content)

/-- The lines of the elements of an array and of the bracket that closes it. -/
def prettyElements (depth : Nat) : List Json → List Char
  | [] => line depth ++ [']']
  | [v] => line (depth + 1) ++ prettyChars (depth + 1) v ++ line depth ++ [']']
  | v :: w :: rest =>
    line (depth + 1) ++ prettyChars (depth + 1) v ++ ',' :: prettyElements depth (w :: rest)

/-- The lines of the members of an object and of the brace that closes it. -/
def prettyMembers (depth : Nat) : List (Option String × Json) → List Char
  | [] => line depth ++ ['\x7d']
  | [(key, v)] =>
    line (depth + 1) ++ stringChars key ++ ':' :: ' ' :: prettyChars (depth + 1) v ++ line depth
      ++ ['\x7d']
  | (key, v) :: m :: rest =>
    line (depth + 1) ++ stringChars key ++ ':' :: ' ' :: prettyChars (depth + 1) v
      ++ ',' :: prettyMembers depth (m :: rest)

end

def pretty (v : Json) : String := String.ofList (prettyChars 0 v)

end Json

end Intercept
