import Telnet.Text.Numeral
import Telnet.Text.Printable

/-!
# Quoted text and quoted bytes

A quoted text names a value in a message without ambiguity and on one line. It stands between
apostrophes, or between quotation marks if the text has an apostrophe and no quotation mark. The
mark and the backslash get a backslash in front; tab, line feed and carriage return have letters;
every other character that is not printable is given by its code point in two, four or eight
hexadecimal digits.
-/

namespace Telnet.Text.Quoted

/-- The mark that stands at both ends. -/
def mark (text : List Char) : Char :=
  if '\'' ∈ text ∧ '"' ∉ text then '"' else '\''

/-- A code point in as few of two, four or eight hexadecimal digits as hold it. -/
def codePoint (n : Nat) : List Char :=
  if n < 0x100 then '\\' :: 'x' :: hex 2 n
  else if n < 0x10000 then '\\' :: 'u' :: hex 4 n
  else '\\' :: 'U' :: hex 8 n

/-- One character between marks `m`. -/
def escape (m c : Char) : List Char :=
  if c = m ∨ c = '\\' then ['\\', c]
  else if c = '\t' then ['\\', 't']
  else if c = '\n' then ['\\', 'n']
  else if c = '\r' then ['\\', 'r']
  else if isPrintable c then [c]
  else codePoint c.toNat

def encode (text : List Char) : List Char :=
  mark text :: text.flatMap (escape (mark text)) ++ [mark text]

/-- One byte between marks `m`: outside printable ASCII by its value. -/
def escapeByte (m : Char) (b : UInt8) : List Char :=
  let c := Char.ofNat b.toNat
  if c = m ∨ c = '\\' then ['\\', c]
  else if c = '\t' then ['\\', 't']
  else if c = '\n' then ['\\', 'n']
  else if c = '\r' then ['\\', 'r']
  else if 0x20 ≤ b.toNat ∧ b.toNat < 0x7f then [c]
  else codePoint b.toNat

/-- Bytes between their marks, behind the letter b. -/
def encodeBytes (bytes : List UInt8) : List Char :=
  let m := mark (bytes.map fun b => Char.ofNat b.toNat)
  'b' :: m :: bytes.flatMap (escapeByte m) ++ [m]

end Quoted

/-- A text as it is named in messages. -/
def quote (text : String) : String := String.ofList (Quoted.encode text.toList)

end Telnet.Text
