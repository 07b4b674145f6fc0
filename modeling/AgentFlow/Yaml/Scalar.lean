import AgentFlow.Number.Integer
import AgentFlow.Text.Blank
import AgentFlow.Yaml.Implicit

/-!
# Values of scalars

The value of a scalar by its tag.  A scalar that has a tag, but no value of that kind,
is a fault of the value and not of the YAML.
-/

namespace AgentFlow.Yaml

open AgentFlow.Number AgentFlow.Text

/-- The lower-case form of ASCII letters. -/
def asciiLowered (cs : List Char) : List Char := cs.map Char.toLower

/-- The text without underscores. -/
def withoutUnderscores (cs : List Char) : List Char := cs.filter (· != '_')

/-- The truth value of a word. -/
def truthValue (cs : List Char) : Except Fault Value :=
  let key := String.ofList (asciiLowered cs)
  if key ∈ ["yes", "true", "on"] then .ok (.bool true)
  else if key ∈ ["no", "false", "off"] then .ok (.bool false)
  else .error (.value (.missingField key))

/-- Read an integer. -/
def readInt (base : Nat) (cs : List Char) : Except Fault Int :=
  (readInteger base (String.ofList cs)).mapError fun fault => .value (.integer fault)

/-- The pieces of a text between colons. -/
def splitColons (cs : List Char) : List (List Char) := cs.splitOn ':'

/-- The number of pieces to the base sixty. -/
def sexagesimal (digits : List Int) : Int :=
  digits.foldl (fun total digit => total * 60 + digit) 0

/-- The value of an integer scalar. -/
def intValue (cs : List Char) : Except Fault Value := do
  let text := withoutUnderscores cs
  if text.isEmpty then .error (.value .emptyText)
  let negative := text.head? == some '-'
  let unsigned := withoutSign text
  let size ←
    if unsigned = ['0'] then pure 0
    else if "0b".toList.isPrefixOf unsigned then readInt 2 (unsigned.drop 2)
    else if "0x".toList.isPrefixOf unsigned then readInt 16 (unsigned.drop 2)
    else if unsigned.isEmpty then .error (.value .emptyText)
    else if unsigned.head? = some '0' then readInt 8 unsigned
    else if unsigned.contains ':' then
      ((splitColons unsigned).mapM (readInt 10)).map sexagesimal
    else readInt 10 unsigned
  return .int (if negative then -size else size)

/-- The value of decimal digits of any script. -/
def digitValues? (cs : List Char) : Option (List Nat) := cs.mapM digitValue?

/-- The exponent at the end of a number. -/
def exponent? : List Char → Option Int
  | [] => some 0
  | letter :: rest =>
    if letter = 'e' then
      let (negative, digits) := takeSign rest
      if digits.isEmpty then none
      else (digitValues? digits).map fun values =>
        let size : Int := ofDigits 10 values
        if negative then -size else size
    else none

/-- The floating-point number that a text in lower case spells. -/
def floatOf? (cs : List Char) : Option Binary64 :=
  let (negative, unsigned) := takeSign (trimNumber cs)
  let isDigit (c : Char) : Bool := (digitValue? c).isSome
  let key := String.ofList unsigned
  if key = "inf" ∨ key = "infinity" then some (.infinite negative)
  else if key = "nan" then some .nan
  else do
    let whole := unsigned.takeWhile isDigit
    let rest := unsigned.dropWhile isDigit
    let (places, rest) :=
      match rest with
      | '.' :: rest => (rest.takeWhile isDigit, rest.dropWhile isDigit)
      | rest => ([], rest)
    if whole.isEmpty && places.isEmpty then none
    let power ← exponent? rest
    let digits ← digitValues? (whole ++ places)
    some (Binary64.ofDecimal negative (ofDigits 10 digits) (power - places.length))

/-- Read a floating-point number. -/
def readFloat (cs : List Char) : Except Fault Binary64 :=
  match floatOf? cs with
  | some x => .ok x
  | none => .error (.value (.float (String.ofList cs)))

/-- The sum of pieces to the base sixty, from the last piece on.  Each power of sixty is
rounded before it counts, and must not be too large for that. -/
def sexagesimalFloat (power : Nat) (total : Binary64) : List Binary64 → Except Fault Binary64
  | [] => .ok total
  | digit :: digits =>
    match Binary64.ofInt power with
    | .infinite _ => .error (.value .hugeFloat)
    | weight => sexagesimalFloat (power * 60) (Binary64.add total (digit.mul weight)) digits

/-- Whether a text is that of the number `.nan`, which is one value wherever it stands. -/
def isNanWord (cs : List Char) : Bool :=
  withoutSign (asciiLowered (withoutUnderscores cs)) == ".nan".toList

/-- The value of a floating-point scalar. -/
def floatValue (cs : List Char) : Except Fault Value := do
  let text := asciiLowered (withoutUnderscores cs)
  if text.isEmpty then .error (.value .emptyText)
  let negative := text.head? == some '-'
  let unsigned := withoutSign text
  let size ←
    if unsigned = ".inf".toList then pure (Binary64.infinite false)
    else if unsigned = ".nan".toList then pure Binary64.nan
    else if unsigned.contains ':' then do
      let digits ← (splitColons unsigned).mapM readFloat
      sexagesimalFloat 1 (Binary64.signedZero false) digits.reverse
    else readFloat unsigned
  return .float (if negative then size.neg else size)

/-- The fault of a date or a time that does not exist. -/
def orCalendarFault {α : Type} (result : Except CalendarFault α) : Except Fault α :=
  result.mapError fun fault => .value (.calendar fault)

/-- The value of a date, with or without a time.  A line feed at the end of the text does
not count. -/
def timestampValue (cs : List Char) : Except Fault Value :=
  match timestampParts? false (withoutLastFeed cs) with
  | none => .error (.value (.wrongKind .fields .null))
  | some parts =>
    match parts.time with
    | none => (orCalendarFault (Date.make? parts.year parts.month parts.day)).map .date
    | some (hour, minute, second) => do
      let micro := numberOf ((parts.fraction ++ List.replicate 6 '0').take 6)
      let offset ← parts.offset.mapM fun minutes => orCalendarFault (DateTime.checkOffset minutes)
      let date ← orCalendarFault (Date.make? parts.year parts.month parts.day)
      let time ← orCalendarFault (TimeOfDay.make? hour minute second micro)
      .ok (.dateTime ⟨date, time, offset⟩)

/-- The value of a letter of the base-64 alphabet. -/
def sextet? (c : Char) : Option Nat :=
  if 'A' ≤ c ∧ c ≤ 'Z' then some (c.toNat - 0x41)
  else if 'a' ≤ c ∧ c ≤ 'z' then some (c.toNat - 0x61 + 26)
  else if c.isDigit then some (c.toNat - 0x30 + 52)
  else if c = '+' then some 62
  else if c = '/' then some 63
  else none

/-- The octets of base-64 letters.  Other characters do not count; `held` and `bits`
are what is left of the letters before, and `pads` counts the padding after them. -/
def base64Octets (held count pads : Nat) : List Char → Option (List UInt8)
  | [] => if count = 0 then some [] else none
  | c :: rest =>
    if c = '=' then
      if count ≥ 2 ∧ count + pads + 1 ≥ 4 then some []
      else base64Octets held count (pads + 1) rest
    else
      match sextet? c with
      | none => base64Octets held count pads rest
      | some value =>
        let octet (n : Nat) : UInt8 := UInt8.ofNat (n % 256)
        match count with
        | 0 => base64Octets value 1 0 rest
        | 1 => (base64Octets (value % 16) 2 0 rest).map (octet (held * 4 + value / 16) :: ·)
        | 2 => (base64Octets (value % 4) 3 0 rest).map (octet (held * 16 + value / 4) :: ·)
        | _ => (base64Octets 0 0 0 rest).map (octet (held * 64 + value) :: ·)

/-- The value of octets in base 64. -/
def binaryValue (cs : List Char) : Except Fault Value :=
  if cs.all (·.toNat < 0x80) then
    match base64Octets 0 0 0 cs with
    | some octets => .ok (.bytes octets)
    | none => .error .malformed
  else .error .malformed

/-- The tags of scalars that have a value. -/
def hasValue (tag : Tag) : Bool :=
  [Tag.null, .bool, .int, .float, .binary, .timestamp, .str].contains tag

/-- The value of a scalar. -/
def scalarValue (tag : Tag) (cs : List Char) : Except Fault Value :=
  match tag with
  | .null => .ok .null
  | .bool => truthValue cs
  | .int => intValue cs
  | .float => floatValue cs
  | .binary => binaryValue cs
  | .timestamp => timestampValue cs
  | .str => .ok (.text (String.ofList cs))
  | _ => .error .malformed

end AgentFlow.Yaml
