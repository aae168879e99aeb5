import Telnet.Decimal.Binary64
import Telnet.Text.Numeral

/-!
# The shortest decimal that reads back

A finite number is written with the fewest digits whose value rounds to it, and of those with the
digits nearest to it. The reals that round to m · 2^q reach half a step up and half a step down,
where the step below a power of two is half as long; the ends belong to it if m is even. In units of
2^(q - 2) all these are integers.

From 10^-4 up to 10^16 the notation is positional, with at least one digit after the point; outside
it is scientific, with a sign and at least two digits in the exponent.
-/

namespace Telnet.Decimal

namespace Shortest

/-- The greatest power of ten that is not above `num / den`. -/
def decade (num den : Nat) : Int :=
  if den ≤ num then (Nat.toDigits 10 (num / den)).length - 1
  else -((Nat.toDigits 10 ((den + num - 1) / num - 1)).length : Int)

/-- Whether digits · 10^power rounds to the number with this positive mantissa and this exponent. -/
def readsBack (mantissa : Nat) (exponent : Int) (digits : Nat) (power : Int) : Bool :=
  let below := if mantissa = Binary64.leadingBit ∧ exponent ≠ Binary64.leastExponent then 1 else 2
  let (n, d) := Binary64.timesTen digits 1 power
  let (n, d) := Binary64.overPower n d (exponent - 2)
  let low := (4 * mantissa - below) * d
  let high := (4 * mantissa + 2) * d
  if mantissa % 2 = 0 then decide (low ≤ n ∧ n ≤ high) else decide (low < n ∧ n < high)

/-- The digits on a grid of the given power of ten that read back, if there are any: of the two
neighbours of the number the nearer one that does. -/
def onGrid? (mantissa : Nat) (exponent power : Int) : Option Nat :=
  let (n, d) := Binary64.overPower mantissa 1 (-exponent)
  let (n, d) := Binary64.timesTen n d (-power)
  let low := n / d
  let near := Binary64.nearest n d
  let far := if near = low then low + 1 else low
  if readsBack mantissa exponent near power then some near
  else if readsBack mantissa exponent far power then some far
  else none

/-- The digits and the power of ten of the shortest decimal of a positive number. Seventeen digits
always suffice. -/
def digits (mantissa : Nat) (exponent : Int) : Nat × Int :=
  let (n, d) := Binary64.overPower mantissa 1 (-exponent)
  let top := decade n d
  let powers := (List.range 17).map fun (count : Nat) => top - (count : Int)
  match powers.findSome? fun p => (onGrid? mantissa exponent p).map (·, p) with
  | some found => found
  | none => (0, 0)

/-- Digits without the zeros at their end, and the power of ten raised accordingly. -/
def strip : List Char → Int → List Char × Int
  | [], power => ([], power)
  | c :: cs, power =>
    match strip cs power with
    | ([], p) => if c = '0' then ([], p + 1) else ([c], p)
    | (rest, p) => (c :: rest, p)

/-- Digits with the point behind the first `point` of them; the point may lie outside. -/
def positional (ds : List Char) (point : Int) : List Char :=
  if point ≤ 0 then '0' :: '.' :: List.replicate (-point).toNat '0' ++ ds
  else
    let whole := ds.take point.toNat
    let fraction := ds.drop point.toNat
    whole ++ List.replicate (point.toNat - ds.length) '0' ++
      '.' :: (if fraction.isEmpty then ['0'] else fraction)

/-- A power of ten behind the digits: the letter e, a sign, and at least two digits. -/
def powerMark (power : Int) : List Char :=
  let size := Text.decimal power.natAbs
  'e' :: (if power < 0 then '-' else '+') :: List.replicate (2 - size.length) '0' ++ size

/-- Digits with the point behind the first of them and a power of ten. -/
def scientific (ds : List Char) (power : Int) : List Char :=
  let mantissa := match ds with
    | [] => []
    | [c] => [c]
    | c :: rest => c :: '.' :: rest
  mantissa ++ powerMark power

/-- Digits in the notation that their power of ten asks for. -/
def layOut (ds : List Char) (power : Int) : List Char :=
  let point : Int := ds.length + power
  if -4 < point ∧ point ≤ 16 then positional ds point else scientific ds (point - 1)

end Shortest

def Binary64.text (x : Binary64) : String :=
  String.ofList <| match x with
    | .undefined => ['n', 'a', 'n']
    | .infinite negative => (if negative then ['-'] else []) ++ ['i', 'n', 'f']
    | .finite negative mantissa exponent =>
      (if negative then ['-'] else []) ++
        if mantissa = 0 then ['0', '.', '0']
        else
          let (ds, power) := Shortest.digits mantissa exponent
          let (ds, power) := Shortest.strip (Text.decimal ds) power
          Shortest.layOut ds power

end Telnet.Decimal
