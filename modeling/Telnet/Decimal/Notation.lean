import Telnet.Decimal.Shortest

/-!
# Notations with a given number of digits

A quotient of natural numbers is written with some places behind the point, with some places and a
power of ten, or with some digits in whichever of these two notations is the plainer. What is left
out is rounded away in exact arithmetic, a tie to the even digit.

* `fixed`: places behind the point.
* `scientific`: one digit, places behind the point, and a power of ten.
* `general`: digits in all, without the zeros at their end.
-/

namespace Telnet.Decimal.Notation

/-- The places behind the point. Without any the point is left out too, unless it is to be kept. -/
def fraction (keepsPoint : Bool) (places : List Char) : List Char :=
  if places.isEmpty && !keepsPoint then [] else '.' :: places

def fixed (keepsPoint : Bool) (places num den : Nat) : List Char :=
  let ds := Text.decimal (Binary64.nearest (num * Nat.pow 10 places) den)
  let ds := List.replicate (places + 1 - ds.length) '0' ++ ds
  ds.take (ds.length - places) ++ fraction keepsPoint (ds.drop (ds.length - places))

/-- The first `count` digits of a quotient, rounded, and the power of ten of the first of them. -/
def leading (count num den : Nat) : List Char × Int :=
  if num = 0 then (List.replicate count '0', 0)
  else
    let top := Shortest.decade num den
    let (n, d) := Binary64.timesTen num den ((count : Int) - 1 - top)
    let ds := Text.decimal (Binary64.nearest n d)
    if ds.length ≤ count then (ds, top) else (ds.take count, top + 1)

/-- Digits with the point behind the first of them, and the power of ten of that one. -/
def withPower (keepsPoint : Bool) (ds : List Char) (power : Int) : List Char :=
  ds.take 1 ++ fraction keepsPoint (ds.drop 1) ++ Shortest.powerMark power

/-- The quotient `num / den` with `places` places behind the point and a power of ten. -/
def scientific (keepsPoint : Bool) (places num den : Nat) : List Char :=
  let (ds, power) := leading (places + 1) num den
  withPower keepsPoint ds power

/-- Digits without a power of ten; `power` is that of the first of them. -/
def withoutPower (keepsPoint : Bool) (ds : List Char) (power : Int) : List Char :=
  if power < 0 then
    '0' :: fraction keepsPoint (List.replicate (-power - 1).toNat '0' ++ ds)
  else
    let count := power.toNat + 1
    ds.take count ++ List.replicate (count - ds.length) '0' ++ fraction keepsPoint (ds.drop count)

/-- The quotient `num / den` with `count` digits, at least one. They carry a power of ten if the
first of them has one below -4 or one that is not below `count`. Zeros at their end are left out
unless the point is to be kept. -/
def general (keepsPoint : Bool) (count num den : Nat) : List Char :=
  let count := max 1 count
  let (ds, power) := leading count num den
  let ds := if keepsPoint then ds
    else match (Shortest.strip ds 0).1 with
      | [] => ['0']
      | kept => kept
  if -4 ≤ power ∧ power < count then withoutPower keepsPoint ds power
  else withPower keepsPoint ds power

end Telnet.Decimal.Notation
