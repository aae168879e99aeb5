/-!
# Binary floating point numbers of 64 bits

A finite number is a sign, a mantissa below 2^53 and a power of two from 2^-1074 on. The module
rounds a quotient of natural numbers to the nearest of them, a tie to the even mantissa, in exact
arithmetic; what is too large becomes infinite.
-/

namespace Telnet.Decimal

inductive Binary64 where
  /-- The number mantissa · 2^exponent with its sign. -/
  | finite (negative : Bool) (mantissa : Nat) (exponent : Int)
  | infinite (negative : Bool)
  /-- The result of an operation without a value. -/
  | undefined
  deriving DecidableEq, Repr

namespace Binary64

def leastExponent : Int := -1074

def greatestExponent : Int := 971

/-- The value of the leading bit of a mantissa with full precision, in place 52. -/
def leadingBit : Nat := 4503599627370496

def signedZero (negative : Bool) : Binary64 := .finite negative 0 leastExponent

/-- The integer nearest to `num / den`; of two that are equally near the even one. -/
def nearest (num den : Nat) : Nat :=
  let low := num / den
  let twice := 2 * (num % den)
  if twice < den ∨ (twice = den ∧ low % 2 = 0) then low else low + 1

/-- A quotient over a power of two, as numerator and denominator. -/
def overPower (num den : Nat) (power : Int) : Nat × Nat :=
  (num * Nat.pow 2 (-power).toNat, den * Nat.pow 2 power.toNat)

/-- A quotient times a power of ten, as numerator and denominator. -/
def timesTen (num den : Nat) (power : Int) : Nat × Nat :=
  (num * Nat.pow 10 power.toNat, den * Nat.pow 10 (-power).toNat)

/-- The exponent at which a positive quotient has its leading bit in place 52, unless that is below
the least one. -/
def exponentOf (num den : Nat) : Int :=
  let guess : Int := (Nat.log2 num : Int) - (Nat.log2 den : Int) - 53
  let (n, d) := overPower num den guess
  max leastExponent (if n / d < 2 * leadingBit then guess else guess + 1)

/-- The number of double precision nearest to `num / den`. -/
def ofRatio (negative : Bool) (num den : Nat) : Binary64 :=
  if num = 0 then signedZero negative
  else
    let q := exponentOf num den
    let (n, d) := overPower num den q
    let m := nearest n d
    let (m, q) := if m = 2 * leadingBit then (leadingBit, q + 1) else (m, q)
    if q ≤ greatestExponent then .finite negative m q else .infinite negative

/-- The number of double precision nearest to digits · 10^power. Numbers whose leading digit is far
outside the range are settled without computing the power. -/
def ofDecimal (negative : Bool) (digits : Nat) (power : Int) : Binary64 :=
  let leading : Int := (Nat.toDigits 10 digits).length + power
  if digits = 0 ∨ leading < -330 then signedZero negative
  else if leading > 330 then .infinite negative
  else
    let (n, d) := timesTen digits 1 power
    ofRatio negative n d

def ofInt (n : Int) : Binary64 := ofRatio (decide (n < 0)) n.natAbs 1

/-- The whole part of a finite number: what stands behind the point is dropped. -/
def wholePart? : Binary64 → Option Int
  | .finite negative mantissa exponent =>
    let (n, d) := overPower mantissa 1 (-exponent)
    some (if negative then -((n / d : Nat) : Int) else (n / d : Nat))
  | _ => none

def whole? (x : Binary64) : Option Int :=
  match x with
  | .finite _ mantissa exponent =>
    let (n, d) := overPower mantissa 1 (-exponent)
    if n % d = 0 then wholePart? x else none
  | _ => none

def isZero : Binary64 → Bool
  | .finite _ 0 _ => true
  | _ => false

end Binary64

end Telnet.Decimal
