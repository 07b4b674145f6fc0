import AgentFlow.Calendar
import AgentFlow.Yaml.Graph

/-!
# Kinds of plain scalars

Which tag the text of a plain scalar has: truth values, numbers, dates and the null
value have texts of their own, and any other text is a string.
-/

namespace AgentFlow.Yaml

/-- A way to read the start of a text: the rest, if it can be read. -/
abbrev Shape := List Char → Option (List Char)

/-- One character of a class. -/
def one (belongs : Char → Bool) : Shape
  | c :: rest => if belongs c then some rest else none
  | [] => none

/-- Any number of characters of a class. -/
def many (belongs : Char → Bool) : Shape := fun cs => some (cs.dropWhile belongs)

/-- At least one character of a class. -/
def some1 (belongs : Char → Bool) : Shape := fun cs => (one belongs cs).bind (many belongs)

/-- One shape after another. -/
def inOrder (shapes : List Shape) : Shape := fun cs =>
  shapes.foldl (fun rest shape => rest.bind shape) (some cs)

/-- A shape, or nothing if it is not there. -/
def orNothing (shape : Shape) : Shape := fun cs => some ((shape cs).getD cs)

/-- A given character. -/
def mark (wanted : Char) : Shape := one (· == wanted)

/-- A given word. -/
def word (wanted : String) : Shape := inOrder (wanted.toList.map mark)

/-- A character that is a sign. -/
def isSign (c : Char) : Bool := c == '-' || c == '+'

/-- A digit or an underscore. -/
def isLooseDigit (c : Char) : Bool := c.isDigit || c == '_'

/-- Whether a shape reads a whole text. -/
def fits (shape : Shape) (cs : List Char) : Bool := shape cs == some []

/-- The exponent of a number, with its sign. -/
def exponentShape : Shape :=
  inOrder [one fun c => c == 'e' || c == 'E', one isSign, some1 Char.isDigit]

/-- Whether a text is one or more groups of two digits at most, below sixty, each after
a colon. -/
def isSexagesimalTail : List Char → Bool
  | ':' :: a :: b :: rest =>
    if b.isDigit then '0' ≤ a && a ≤ '5' && (rest.isEmpty || isSexagesimalTail rest)
    else a.isDigit && isSexagesimalTail (b :: rest)
  | [':', a] => a.isDigit
  | _ => false

/-- Whether a text is a number with groups after colons.  The first digit is of a class. -/
def isSexagesimal (firstDigit : Char → Bool) (cs : List Char) : Bool :=
  match cs with
  | c :: rest => firstDigit c && isSexagesimalTail (rest.dropWhile isLooseDigit)
  | [] => false

/-- The text without its sign. -/
def withoutSign (cs : List Char) : List Char :=
  match cs with
  | c :: rest => if isSign c then rest else cs
  | [] => []

/-- The texts of truth values. -/
def truthWords : List String :=
  ["yes", "Yes", "YES", "no", "No", "NO", "true", "True", "TRUE", "false", "False", "FALSE",
    "on", "On", "ON", "off", "Off", "OFF"]

/-- Whether a text is that of a floating-point number. -/
def isFloat (cs : List Char) : Bool :=
  let unsigned := withoutSign cs
  let beforePoint := unsigned.takeWhile (· != '.')
  let afterPoint := unsigned.dropWhile (· != '.')
  fits (inOrder [one Char.isDigit, many isLooseDigit, mark '.', many isLooseDigit,
      orNothing exponentShape]) unsigned ||
    fits (inOrder [mark '.', one Char.isDigit, many isLooseDigit, orNothing exponentShape]) cs ||
    (isSexagesimal Char.isDigit beforePoint &&
      fits (inOrder [mark '.', many isLooseDigit]) afterPoint) ||
    [".inf", ".Inf", ".INF"].any (fun text => text.toList == unsigned) ||
    [".nan", ".NaN", ".NAN"].any (fun text => text.toList == cs)

/-- Whether a text is that of an integer. -/
def isInteger (cs : List Char) : Bool :=
  let unsigned := withoutSign cs
  let isNonzero (c : Char) : Bool := c.isDigit && c != '0'
  fits (inOrder [word "0b", some1 fun c => c == '0' || c == '1' || c == '_']) unsigned ||
    fits (inOrder [mark '0', some1 fun c => ('0' ≤ c && c ≤ '7') || c == '_']) unsigned ||
    unsigned == ['0'] ||
    fits (inOrder [one isNonzero, many isLooseDigit]) unsigned ||
    fits (inOrder [word "0x", some1 fun c => (Text.hexValue? c).isSome || c == '_']) unsigned ||
    isSexagesimal isNonzero unsigned

/-- The texts of the null value. -/
def nullWords : List String := ["", "~", "null", "Null", "NULL"]

/-- The parts of a date with a time, as they are written. -/
structure TimestampParts where
  year : Nat
  month : Nat
  day : Nat
  time : Option (Nat × Nat × Nat)
  fraction : List Char
  offset : Option Int
  deriving Repr

/-- One or two digits. -/
def takeOneOrTwo? : List Char → Option (List Char × List Char)
  | a :: b :: rest =>
    if a.isDigit then if b.isDigit then some ([a, b], rest) else some ([a], b :: rest) else none
  | [a] => if a.isDigit then some ([a], []) else none
  | [] => none

/-- A number of digits. -/
def takeCount? (count : Nat) (cs : List Char) : Option (List Char × List Char) :=
  let digits := cs.take count
  if digits.length = count ∧ digits.all Char.isDigit then some (digits, cs.drop count) else none

/-- The number that digits spell. -/
def numberOf (digits : List Char) : Nat :=
  Number.ofDigits 10 (digits.map fun c => c.toNat - 0x30)

/-- The text after a character. -/
def after? (wanted : Char) (cs : List Char) : Option (List Char) := mark wanted cs

/-- A space or a tab. -/
def isTimeSpace (c : Char) : Bool := c == ' ' || c == '\t'

/-- The offset at the end of a date with a time; the whole rest must be one. -/
def takeZone? (cs : List Char) : Option (Option Int) :=
  match cs with
  | [] => some none
  | _ =>
    match cs.dropWhile isTimeSpace with
    | ['Z'] => some (some 0)
    | sign :: rest =>
      if isSign sign then do
        let (hours, rest) ← takeOneOrTwo? rest
        let minutes ←
          match rest with
          | [] => some 0
          | ':' :: rest =>
            match takeCount? 2 rest with
            | some (minutes, []) => some (numberOf minutes)
            | _ => none
          | _ => none
        let size : Int := numberOf hours * 60 + minutes
        some (some (if sign = '-' then -size else size))
      else none
    | [] => none

/-- The parts of a date, with or without a time.  A date alone has two digits in each
part, if `strict`. -/
def timestampParts? (strict : Bool) (cs : List Char) : Option TimestampParts := do
  let (year, rest) ← takeCount? 4 cs
  let (month, rest) ← takeOneOrTwo? (← after? '-' rest)
  let (day, rest) ← takeOneOrTwo? (← after? '-' rest)
  let date : TimestampParts :=
    ⟨numberOf year, numberOf month, numberOf day, none, [], none⟩
  match rest with
  | [] => if strict && (month.length != 2 || day.length != 2) then none else some date
  | c :: after =>
    let rest ←
      if c = 'T' ∨ c = 't' then some after
      else if isTimeSpace c then some (after.dropWhile isTimeSpace) else none
    let (hour, rest) ← takeOneOrTwo? rest
    let (minute, rest) ← takeCount? 2 (← after? ':' rest)
    let (second, rest) ← takeCount? 2 (← after? ':' rest)
    let (fraction, rest) :=
      match rest with
      | '.' :: rest => (rest.takeWhile Char.isDigit, rest.dropWhile Char.isDigit)
      | rest => ([], rest)
    let offset ← takeZone? rest
    some { date with
      time := some (numberOf hour, numberOf minute, numberOf second)
      fraction := fraction
      offset := offset }

/-- The tag of a text that is written plainly. -/
def plainTag (cs : List Char) : Tag :=
  if truthWords.any (·.toList == cs) then .bool
  else if isFloat cs then .float
  else if isInteger cs then .int
  else if cs = ['<', '<'] then .merge
  else if nullWords.any (·.toList == cs) then .null
  else if (timestampParts? true cs).isSome then .timestamp
  else if cs = ['='] then .value
  else if cs = ['!'] ∨ cs = ['&'] ∨ cs = ['*'] then .other
  else .str

/-- The text without a line feed at its end. -/
def withoutLastFeed (cs : List Char) : List Char :=
  if cs.getLast? = some '\n' then cs.dropLast else cs

/-- The tag of a text; a line feed at its end does not count, unless it is all. -/
def implicitTag (cs : List Char) : Tag :=
  if cs = ['\n'] then .str else plainTag (withoutLastFeed cs)

end AgentFlow.Yaml
