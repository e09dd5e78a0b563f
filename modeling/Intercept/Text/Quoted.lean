import Intercept.Text.Hex
import Intercept.Text.Printable

/-!
# Quoted text

A text between double quotes, in which nothing invisible is left: the quote, the backslash, tab,
line feed, carriage return and the null character have escapes of their own, and every other
invisible character is written by its hexadecimal number.
-/

namespace Intercept.Quoted

/-- How a character is written between quotes. -/
def escaped (c : Char) : List Char :=
  match c with
  | '\x00' => ['\\', '0']
  | '\t' => ['\\', 't']
  | '\n' => ['\\', 'n']
  | '\r' => ['\\', 'r']
  | '"' => ['\\', '"']
  | '\\' => ['\\', '\\']
  | c =>
    if Printable.isVisible c then [c]
    else ['\\', 'u', '\x7b'] ++ Hex.digits c.toNat ++ ['\x7d']

/-- A text between quotes. -/
def quote (s : String) : String := String.ofList ('"' :: s.toList.flatMap escaped ++ ['"'])

end Intercept.Quoted
