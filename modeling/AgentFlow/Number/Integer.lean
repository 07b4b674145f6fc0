import AgentFlow.Text.Blank
import AgentFlow.Text.Digit

/-!
# Integers as text

Writing an integer in decimal digits, and the lenient reading of an integer: in
blanks, with a sign, with single underscores between its digits, and with the
digits of any script.
-/

namespace AgentFlow.Number

open AgentFlow.Text

/-- The decimal digits of an integer, after a minus sign if it is negative. -/
def integerChars : Int → List Char
  | .ofNat n => Nat.toDigits 10 n
  | .negSucc n => '-' :: Nat.toDigits 10 (n + 1)

/-- `integerChars` as a string. -/
def integerText (n : Int) : String :=
  String.ofList (integerChars n)

/-- The most digits that are converted between text and number in a base that is
no power of two. -/
def maxDigits : Nat := 4300

/-- Why a text is not read as an integer. -/
inductive IntegerFault where
  | malformed (base : Nat) (text : String)
  | tooLong (digits : Nat)
  deriving DecidableEq, Repr

/-- A digit in a base: decimal digits of any script, then ASCII letters. -/
def baseDigit? (base : Nat) (c : Char) : Option Nat :=
  let value :=
    match digitValue? c with
    | some value => some value
    | none =>
      if 'a' ≤ c ∧ c ≤ 'z' then some (c.toNat - 0x57)
      else if 'A' ≤ c ∧ c ≤ 'Z' then some (c.toNat - 0x37)
      else none
  value.filter (· < base)

/-- The digits of a number, with single underscores between them.  `afterDigit`
tells whether an underscore may come next. -/
def readDigits? (base : Nat) (afterDigit : Bool) : List Char → Option (List Nat)
  | [] => if afterDigit then some [] else none
  | '_' :: rest => if afterDigit then readDigits? base false rest else none
  | c :: rest =>
    match baseDigit? base c with
    | some value => (readDigits? base true rest).map (value :: ·)
    | none => none

/-- The number that digits spell, most significant first. -/
def ofDigits (base : Nat) (digits : List Nat) : Nat :=
  digits.foldl (fun total digit => total * base + digit) 0

/-- The digits after the mark of their base (`0b`, `0o` or `0x`), if it stands
there.  An underscore may follow the mark. -/
def dropBaseMark (base : Nat) (cs : List Char) : List Char :=
  let marks : List Char :=
    if base = 2 then ['b', 'B'] else if base = 8 then ['o', 'O']
    else if base = 16 then ['x', 'X'] else []
  match cs with
  | '0' :: mark :: rest =>
    if marks.contains mark then
      match rest with
      | '_' :: digits => digits
      | digits => digits
    else cs
  | _ => cs

/-- Split a leading sign off. -/
def takeSign : List Char → Bool × List Char
  | '-' :: rest => (true, rest)
  | '+' :: rest => (false, rest)
  | cs => (false, cs)

/-- The blanks that may stand around a number: all but the four separators of ASCII. -/
def isNumberBlank (c : Char) : Bool :=
  isBlank c && !(0x1C ≤ c.toNat && c.toNat ≤ 0x1F)

/-- The text of a number without the blanks around it. -/
def trimNumber (cs : List Char) : List Char :=
  ((cs.dropWhile isNumberBlank).reverse.dropWhile isNumberBlank).reverse

/-- Read an integer in a base. -/
def readInteger (base : Nat) (text : String) : Except IntegerFault Int :=
  let (negative, unsigned) := takeSign (trimNumber text.toList)
  match readDigits? base false (dropBaseMark base unsigned) with
  | none => .error (.malformed base text)
  | some digits =>
    if base ∉ [2, 4, 8, 16, 32] ∧ digits.length > maxDigits then .error (.tooLong digits.length)
    else
      let magnitude : Int := ofDigits base digits
      .ok (if negative then -magnitude else magnitude)

end AgentFlow.Number
