import Telnet.Decimal.Binary64
import Telnet.Text.Blank
import Telnet.Text.Digit

/-!
# Reading a number of double precision

A number is an optional sign and then digits with at most one point among them and an optional
exponent, or the word for infinity, or the one for an undefined value. Digits of every decimal
notation count, blanks around the number are skipped, and an underscore may stand between two
digits.
-/

namespace Telnet.Decimal.Reader

/-- A text in ASCII digits: every character in decimal notation is replaced by the ASCII digit of
the same value. -/
def asciiDigits (text : List Char) : List Char :=
  text.map fun c => match Text.decimalValue? c with
    | some value => Nat.digitChar value
    | none => c

/-- A text without its underscores, if each of them stands between two digits. `before` is the
character in front. -/
def joinDigits? (before : Char) : List Char → Option (List Char)
  | [] => some []
  | ['_'] => none
  | '_' :: c :: rest =>
    if before.isDigit && c.isDigit then (joinDigits? c rest).map (c :: ·) else none
  | c :: rest => (joinDigits? c rest).map (c :: ·)

def sign : List Char → Bool × List Char
  | '-' :: rest => (true, rest)
  | '+' :: rest => (false, rest)
  | rest => (false, rest)

def digits (text : List Char) : List Char × List Char :=
  (text.takeWhile Char.isDigit, text.dropWhile Char.isDigit)

/-- The exponent behind the digits of a number; its absence counts as zero. -/
def exponent? : List Char → Option Int
  | [] => some 0
  | c :: rest =>
    if c = 'e' ∨ c = 'E' then
      let (negative, rest) := sign rest
      match digits rest with
      | (ds@(_ :: _), []) =>
        let size : Int := Nat.ofDigitChars 10 ds 0
        some (if negative then -size else size)
      | _ => none
    else none

def finite? (negative : Bool) (text : List Char) : Option Binary64 :=
  let (whole, rest) := digits text
  let (fraction, rest) := match rest with
    | '.' :: rest => digits rest
    | _ => ([], rest)
  if whole.isEmpty && fraction.isEmpty then none
  else (exponent? rest).map fun power =>
    .ofDecimal negative (Nat.ofDigitChars 10 (whole ++ fraction) 0) (power - fraction.length)

def word? (negative : Bool) (text : List Char) : Option Binary64 :=
  let lower := String.ofList (text.map Char.toLower)
  if lower = "inf" ∨ lower = "infinity" then some (.infinite negative)
  else if lower = "nan" then some .undefined
  else none

end Reader

def Binary64.ofText? (text : String) : Option Binary64 := do
  let plain ← Reader.joinDigits? ' ' (Text.trim (Reader.asciiDigits text.toList))
  let (negative, body) := Reader.sign plain
  Reader.finite? negative body <|> Reader.word? negative body

end Telnet.Decimal
