/-!
# Floating-point numbers

Numbers of the IEEE 754 binary64 format, kept exactly as a sign, a mantissa and a
power of two.  Every finite number is the rounding of a quotient of integers to
the nearest, a tie going to the even mantissa, so all arithmetic is done on
quotients and rounded once.
-/

namespace AgentFlow.Number

/-- A binary64 number.  A finite one is `mantissa * 2 ^ exponent` with its sign,
the mantissa below `2 ^ 53` and the exponent at least `-1074`. -/
inductive Binary64 where
  | nan
  | infinite (negative : Bool)
  | finite (negative : Bool) (mantissa : Nat) (exponent : Int)
  deriving DecidableEq, Repr

/-- The quotient rounded to the nearest integer, a tie to the even one. -/
def roundDiv (numerator denominator : Nat) : Nat :=
  let quotient := numerator / denominator
  let twice := 2 * (numerator % denominator)
  if twice < denominator then quotient
  else if twice > denominator then quotient + 1
  else if quotient % 2 = 0 then quotient else quotient + 1

namespace Binary64

/-- The least exponent of a finite number. -/
def minExponent : Int := -1074

/-- The greatest exponent of a finite number. -/
def maxExponent : Int := 971

/-- Positive or negative zero. -/
def signedZero (negative : Bool) : Binary64 := .finite negative 0 minExponent

/-- `numerator / (denominator * 2 ^ exponent)` as a quotient of integers. -/
def scaled (numerator denominator : Nat) (exponent : Int) : Nat × Nat :=
  if 0 ≤ exponent then (numerator, denominator * Nat.pow 2 exponent.toNat)
  else (numerator * Nat.pow 2 (-exponent).toNat, denominator)

/-- The number nearest to a quotient of integers. -/
def ofRatio (negative : Bool) (numerator denominator : Nat) : Binary64 :=
  if numerator = 0 then signedZero negative
  else
    let guess : Int := (numerator.log2 : Int) - denominator.log2 - 52
    let fits (exponent : Int) : Bool :=
      let (n, d) := scaled numerator denominator exponent
      n / d < Nat.pow 2 53
    let lowest := if fits (guess - 1) then guess - 1 else if fits guess then guess else guess + 1
    let exponent := max lowest minExponent
    let (n, d) := scaled numerator denominator exponent
    let mantissa := roundDiv n d
    let (mantissa, exponent) :=
      if mantissa = Nat.pow 2 53 then (Nat.pow 2 52, exponent + 1) else (mantissa, exponent)
    if exponent > maxExponent then .infinite negative
    else .finite negative mantissa exponent

/-- The number nearest to `digits * 10 ^ exponent`. -/
def ofDecimal (negative : Bool) (digits : Nat) (exponent : Int) : Binary64 :=
  if digits = 0 then signedZero negative
  else
    let size : Int := exponent + (Nat.toDigits 10 digits).length
    if size > 400 then .infinite negative
    else if size < -400 then signedZero negative
    else if 0 ≤ exponent then ofRatio negative (digits * Nat.pow 10 exponent.toNat) 1
    else ofRatio negative digits (Nat.pow 10 (-exponent).toNat)

/-- The integer as a floating-point number. -/
def ofInt (n : Int) : Binary64 := ofRatio (n < 0) n.natAbs 1

/-- The number with the other sign. -/
def neg : Binary64 → Binary64
  | .nan => .nan
  | .infinite negative => .infinite (!negative)
  | .finite negative mantissa exponent => .finite (!negative) mantissa exponent

/-- A finite number as a signed numerator over a denominator. -/
def toRatio? : Binary64 → Option (Int × Nat)
  | .finite negative mantissa exponent =>
    let magnitude : Int := (mantissa * Nat.pow 2 exponent.toNat : Nat)
    some (if negative then -magnitude else magnitude, Nat.pow 2 (-exponent).toNat)
  | _ => none

/-- The sum, rounded. -/
def add (x y : Binary64) : Binary64 :=
  match x.toRatio?, y.toRatio? with
  | some (a, b), some (c, d) =>
    let sum := a * d + c * b
    ofRatio (sum < 0) sum.natAbs (b * d)
  | some _, none => y
  | none, some _ => x
  | none, none => if x = y then x else .nan

/-- Whether the sign is a minus. -/
def isNegative : Binary64 → Bool
  | .nan => false
  | .infinite negative => negative
  | .finite negative _ _ => negative

/-- Whether the number is zero, of either sign. -/
def isZero : Binary64 → Bool
  | .finite _ mantissa _ => mantissa = 0
  | _ => false

/-- The product, rounded. -/
def mul (x y : Binary64) : Binary64 :=
  let negative := x.isNegative != y.isNegative
  match x.toRatio?, y.toRatio? with
  | some (a, b), some (c, d) => ofRatio negative (a.natAbs * c.natAbs) (b * d)
  | _, _ =>
    if x = .nan ∨ y = .nan ∨ x.isZero ∨ y.isZero then .nan else .infinite negative

/-- The integer part of a finite number. -/
def truncate? (x : Binary64) : Option Int :=
  x.toRatio?.map fun (a, b) => Int.tdiv a b

/-- Whether the number is exactly the integer. -/
def eqInt (x : Binary64) (n : Int) : Bool :=
  match x.toRatio? with
  | some (a, b) => a == n * b
  | none => false

/-- Numeric equality: the zeros are equal, and NaN equals nothing. -/
def numEq (x y : Binary64) : Bool :=
  match x.toRatio?, y.toRatio? with
  | some (a, b), some (c, d) => a * d == c * b
  | _, _ => x != .nan && x == y

end Binary64

end AgentFlow.Number
