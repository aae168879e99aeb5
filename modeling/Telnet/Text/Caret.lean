import Telnet.Text.Numeral

/-!
# Control characters in print

Printable ASCII stands for itself; a control is a caret with the letter 0x40 places further on, and
delete is a caret with a question mark; everything else is given by its code point.
-/

namespace Telnet.Text

/-- A printable name of a character. -/
def caret (c : Char) : List Char :=
  let n := c.toNat
  if 0x20 ≤ n ∧ n < 0x7f then [c]
  else if n = 0x7f then ['^', '?']
  else if n < 0x20 then ['^', Char.ofNat (n + 0x40)]
  else '\\' :: 'x' :: hex 2 n

/-- A printable name of a text of one character. -/
def caret? (text : String) : Option String :=
  match text.toList with
  | [c] => some (String.ofList (caret c))
  | _ => none

end Telnet.Text
