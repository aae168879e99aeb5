import Telnet.Decimal.Notation
import Telnet.Value

/-!
# Layouts

How a value is laid out in a line: in a kind of notation, with a least width, a precision and flags.
A text is cut to the precision. For a whole number the precision is the least number of digits, and
for a number with decimal places the number of places or of digits.
-/

namespace Telnet.Log

structure Layout where
  flags : List Char
  width : Nat
  precision : Option Nat
  kind : Char

namespace Layout

def isFlag (c : Char) : Bool := "#0- +".toList.contains c

/-- A text filled up to a width, at its end if the flags ask for that. -/
def fill (l : Layout) (text : List Char) : List Char :=
  let blanks := List.replicate (l.width - text.length) ' '
  if l.flags.contains '-' then text ++ blanks else blanks ++ text

/-- A text cut to the precision and filled up. -/
def ofText (l : Layout) (text : List Char) : List Char :=
  l.fill (match l.precision with
    | some p => text.take p
    | none => text)

/-- A numeral with its sign, the mark of its base and zeros up to the width. -/
def ofNumeral (l : Layout) (negative : Bool) (baseMark numeral : List Char) : List Char :=
  let sign := if negative then ['-'] else if l.flags.contains '+' then ['+']
    else if l.flags.contains ' ' then [' '] else []
  let mark := sign ++ if l.flags.contains '#' then baseMark else []
  let zeros := if l.flags.contains '0' && !l.flags.contains '-' then
    l.width - mark.length - numeral.length else 0
  l.fill (mark ++ List.replicate zeros '0' ++ numeral)

/-- The digits of a whole number, with zeros in front up to the precision. -/
def ofDigits (l : Layout) (negative : Bool) (baseMark digits : List Char) : List Char :=
  l.ofNumeral negative baseMark
    (List.replicate (l.precision.getD 0 - digits.length) '0' ++ digits)

def ofWhole? (l : Layout) (n : Int) : Option (List Char) :=
  let digits := fun base => Nat.toDigits base n.natAbs
  match l.kind with
  | 'd' | 'i' | 'u' => some (l.ofDigits (n < 0) [] (digits 10))
  | 'x' => some (l.ofDigits (n < 0) ['0', 'x'] (digits 16))
  | 'X' => some (l.ofDigits (n < 0) ['0', 'X'] ((digits 16).map Char.toUpper))
  | 'o' => some (l.ofDigits (n < 0) ['0', 'o'] (digits 8))
  | _ => none

/-- The number of places or of digits, unless a precision says otherwise. -/
def standardPrecision : Nat := 6

/-- A number of double precision with decimal places. -/
def ofDouble? (l : Layout) (x : Decimal.Binary64) : Option (List Char) :=
  match x with
  | .finite negative mantissa exponent =>
    let (num, den) := Decimal.Binary64.overPower mantissa 1 (-exponent)
    let keepsPoint := l.flags.contains '#'
    let count := l.precision.getD standardPrecision
    let numeral := match l.kind.toLower with
      | 'f' => Decimal.Notation.fixed keepsPoint count num den
      | 'e' => Decimal.Notation.scientific keepsPoint count num den
      | _ => Decimal.Notation.general keepsPoint count num den
    some (l.ofNumeral negative []
      (if l.kind.isUpper then numeral.map Char.toUpper else numeral))
  | _ => none

/-- A number by its code point, or a text of a single character. -/
def ofCharacter? (l : Layout) (d : Datum) : Option (List Char) :=
  match d with
  | .text s => if s.length = 1 then some (l.fill s.toList) else none
  | d => d.integer?.bind fun n =>
    if 0 ≤ n ∧ n.toNat.isValidChar then some (l.fill [Char.ofNat n.toNat]) else none

/-- Characters outside ASCII by their code points. -/
def asciiOnly (text : List Char) : List Char :=
  text.flatMap fun c => if c.toNat < 0x80 then [c] else Text.Quoted.codePoint c.toNat

/-- A value in a layout, if it can be given in that kind of notation. -/
def text? (l : Layout) (d : Datum) : Option (List Char) :=
  match l.kind with
  | 's' => some (l.ofText d.plain.toList)
  | 'r' => some (l.ofText d.quoted.toList)
  | 'a' => some (l.ofText (asciiOnly d.quoted.toList))
  | 'c' => l.ofCharacter? d
  | 'e' | 'E' | 'f' | 'F' | 'g' | 'G' =>
    d.integer?.bind fun n => l.ofDouble? (.ofInt n)
  | _ => d.integer?.bind l.ofWhole?

end Layout

end Telnet.Log
