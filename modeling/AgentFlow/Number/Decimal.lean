import AgentFlow.Number.Integer
import AgentFlow.Number.Shortest

/-!
# Decimal notations

Floating-point numbers with a given number of digits: with fixed decimal places, with a
power of ten, or with whichever of both is shorter.  The last digit is rounded, a tie
going to the even one.
-/

namespace AgentFlow.Number

/-- A notation of floating-point numbers. -/
inductive DecimalStyle where
  | fixed
  | scientific
  | general
  deriving DecidableEq, Repr

/-- Digits with zeros in front, up to a length. -/
def zeroFilled (length : Nat) (digits : List Char) : List Char :=
  List.replicate (length - digits.length) '0' ++ digits

/-- Digits with a decimal point before the last ones.  A point that nothing follows is
left out unless `keepPoint`. -/
def withPoint (keepPoint : Bool) (places : Nat) (digits : List Char) : List Char :=
  let whole := digits.take (digits.length - places)
  let fraction := digits.drop (digits.length - places)
  if fraction.isEmpty && !keepPoint then whole else whole ++ '.' :: fraction

/-- No floating-point number has so many digits, in all or behind the point; those that
follow are zeros. -/
def exactDigits : Nat := 1100

/-- A quotient with a number of decimal places. -/
def fixedPlaces (keepPoint : Bool) (places numerator denominator : Nat) : List Char :=
  let exact := min places exactDigits
  let scaled := roundDiv (numerator * Nat.pow 10 exact) denominator
  let digits := Nat.toDigits 10 scaled ++ List.replicate (places - exact) '0'
  withPoint keepPoint places (zeroFilled (places + 1) digits)

/-- The greatest power of ten that is not above a positive quotient. -/
def leadingPower (numerator denominator : Nat) : Int :=
  let guess : Int :=
    ((Nat.toDigits 10 numerator).length : Int) - (Nat.toDigits 10 denominator).length
  let fits :=
    if 0 ≤ guess then denominator * Nat.pow 10 guess.toNat ≤ numerator
    else denominator ≤ numerator * Nat.pow 10 (-guess).toNat
  if fits then guess else guess - 1

/-- The leading digits of a quotient, at least one, and the power of ten of the first. -/
def leadingDigits (count numerator denominator : Nat) : List Char × Int :=
  if numerator = 0 then (List.replicate count '0', 0)
  else
    let exact := min count exactDigits
    let power := leadingPower numerator denominator
    let shift := (exact : Int) - 1 - power
    let scaled :=
      if 0 ≤ shift then roundDiv (numerator * Nat.pow 10 shift.toNat) denominator
      else roundDiv numerator (denominator * Nat.pow 10 (-shift).toNat)
    if scaled = Nat.pow 10 exact then ('1' :: List.replicate (count - 1) '0', power + 1)
    else (Nat.toDigits 10 scaled ++ List.replicate (count - exact) '0', power)

/-- A power of ten as it stands behind a number: its sign, and at least two digits. -/
def powerChars (power : Int) : List Char :=
  'e' :: (if power < 0 then '-' else '+') :: zeroFilled 2 (Nat.toDigits 10 power.natAbs)

/-- A quotient with a power of ten. -/
def withPower (keepPoint : Bool) (places numerator denominator : Nat) : List Char :=
  let (digits, power) := leadingDigits (places + 1) numerator denominator
  withPoint keepPoint places digits ++ powerChars power

/-- The text without the zeros at its end. -/
def withoutEndZeros (cs : List Char) : List Char :=
  (cs.reverse.dropWhile (· == '0')).reverse

/-- A quotient with a number of digits in all, those behind the point without the zeros
at the end.  With `keepPoint` the zeros stay too. -/
def shorterOf (keepPoint : Bool) (count numerator denominator : Nat) : List Char :=
  let (digits, power) := leadingDigits count numerator denominator
  let trimmed (places : Nat) : List Char × Nat :=
    if keepPoint then (digits, places)
    else
      let kept := withoutEndZeros (digits.drop (digits.length - places))
      (digits.take (digits.length - places) ++ kept, kept.length)
  if power < -4 ∨ (count : Int) ≤ power then
    let (digits, places) := trimmed (count - 1)
    withPoint keepPoint places digits ++ powerChars power
  else if power < 0 then
    let zeros := (-power - 1).toNat
    let kept := if keepPoint then digits else withoutEndZeros digits
    '0' :: '.' :: List.replicate zeros '0' ++ kept
  else
    let (digits, places) := trimmed (count - 1 - power.toNat)
    withPoint keepPoint places digits

/-- The number without its sign. -/
def Binary64.unsignedChars (x : Binary64) (style : DecimalStyle) (keepPoint : Bool)
    (precision : Nat) : List Char :=
  match x.toRatio? with
  | none => if x = .nan then ['n', 'a', 'n'] else ['i', 'n', 'f']
  | some (numerator, denominator) =>
    let numerator := numerator.natAbs
    match style with
    | .fixed => fixedPlaces keepPoint precision numerator denominator
    | .scientific => withPower keepPoint precision numerator denominator
    | .general => shorterOf keepPoint (max precision 1) numerator denominator

end AgentFlow.Number
