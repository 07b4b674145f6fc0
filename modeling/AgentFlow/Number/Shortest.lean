import AgentFlow.Number.Binary64

/-!
# The shortest decimal text of a number

Of the decimals that round to a number, the ones with the fewest digits are
taken, and of those the nearest.  The text is positional when the first digit
stands for a power of ten from `-4` to `15`, and scientific otherwise.
-/

namespace AgentFlow.Number

/-- The decimal `digits * 10 ^ exponent`. -/
structure Decimal where
  digits : Nat
  exponent : Int
  deriving DecidableEq, Repr

namespace Shortest

/-- The numbers that round to `mantissa * 2 ^ exponent`, in quarters of its last
place: from `4 * mantissa - below` to `4 * mantissa + 2`. -/
def below (mantissa : Nat) (exponent : Int) : Nat :=
  if mantissa = Nat.pow 2 52 ∧ exponent > Binary64.minExponent then 1 else 2

/-- The two factors that turn quarters of the last place into multiples of
`10 ^ grid`: `x` quarters are `x * times / unit` steps. -/
def factors (exponent grid : Int) : Nat × Nat :=
  let quarter := exponent - 2
  (Nat.pow 2 quarter.toNat * Nat.pow 10 (-grid).toNat,
    Nat.pow 2 (-quarter).toNat * Nat.pow 10 grid.toNat)

/-- The best multiple of `10 ^ grid` that rounds to the number, if there is one. -/
def onGrid? (mantissa : Nat) (exponent grid : Int) : Option Nat :=
  let (times, unit) := factors exponent grid
  let value := 4 * mantissa * times
  let low := (4 * mantissa - below mantissa exponent) * times
  let high := (4 * mantissa + 2) * times
  let rounds (steps : Nat) : Bool :=
    steps > 0 &&
      if mantissa % 2 = 0 then low ≤ steps * unit && steps * unit ≤ high
      else low < steps * unit && steps * unit < high
  let down := value / unit
  let up := down + 1
  match rounds down, rounds up with
  | true, true =>
    let toDown := value - down * unit
    let toUp := up * unit - value
    some (if toDown < toUp then down else if toUp < toDown then up
      else if down % 2 = 0 then down else up)
  | true, false => some down
  | false, true => some up
  | false, false => none

/-- Search finer and finer grids. -/
def search (mantissa : Nat) (exponent grid : Int) : Nat → Decimal
  | 0 => ⟨0, 0⟩
  | tries + 1 =>
    match onGrid? mantissa exponent grid with
    | some digits => ⟨digits, grid⟩
    | none => search mantissa exponent (grid - 1) tries

end Shortest

/-- The shortest decimal that rounds to `mantissa * 2 ^ exponent`. -/
def shortestDecimal (mantissa : Nat) (exponent : Int) : Decimal :=
  let binarySize : Int := mantissa.log2 + exponent
  let grid : Int := binarySize * 30103 / 100000 + 2
  Shortest.search mantissa exponent grid 24

/-- The digits of a decimal with the point after the first `places`, which may be
outside of them. -/
def positional (digits : List Char) (places : Int) : List Char :=
  if places ≤ 0 then
    '0' :: '.' :: List.replicate (-places).toNat '0' ++ digits
  else if digits.length ≤ places.toNat then
    digits ++ List.replicate (places.toNat - digits.length) '0' ++ ['.', '0']
  else digits.take places.toNat ++ '.' :: digits.drop places.toNat

/-- The digits of a decimal with one before the point, and its power of ten. -/
def scientific (digits : List Char) (power : Int) : List Char :=
  let mantissa :=
    match digits with
    | [] => []
    | [digit] => [digit]
    | digit :: rest => digit :: '.' :: rest
  let size := Nat.toDigits 10 power.natAbs
  let padded := if size.length < 2 then '0' :: size else size
  mantissa ++ 'e' :: (if power < 0 then '-' else '+') :: padded

/-- The text of a floating-point number. -/
def Binary64.chars : Binary64 → List Char
  | .nan => ['n', 'a', 'n']
  | .infinite negative => (if negative then ['-'] else []) ++ ['i', 'n', 'f']
  | .finite negative mantissa exponent =>
    let body :=
      if mantissa = 0 then ['0', '.', '0']
      else
        let decimal := shortestDecimal mantissa exponent
        let digits := Nat.toDigits 10 decimal.digits
        let places : Int := decimal.exponent + digits.length
        if -4 < places ∧ places ≤ 16 then positional digits places
        else scientific digits (places - 1)
    (if negative then ['-'] else []) ++ body

/-- `Binary64.chars` as a string. -/
def Binary64.text (x : Binary64) : String := String.ofList x.chars

end AgentFlow.Number
