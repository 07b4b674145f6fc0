import AgentFlow.Json.Text
import AgentFlow.Value.Basic

/-!
# Reading JSON

A JSON text as a value.  The numbers NaN and Infinity are read too; of members
with one key the last gives the value and the first the place.
-/

namespace AgentFlow.Json

open AgentFlow.Number

/-- Why a text is not read as JSON. -/
inductive Fault where
  | malformed
  | tooDeep
  | number (fault : IntegerFault)
  deriving DecidableEq, Repr

/-- The blanks between the tokens. -/
def isSpace (c : Char) : Bool :=
  c == ' ' || c == '\t' || c == '\n' || c == '\r'

/-- The text after its leading blanks. -/
def skipSpace (cs : List Char) : List Char := cs.dropWhile isSpace

/-- The text after a word, if it starts with it. -/
def dropWord? : List Char → List Char → Option (List Char)
  | [], cs => some cs
  | w :: word, c :: cs => if w = c then dropWord? word cs else none
  | _ :: _, [] => none

/-- The number that ASCII digits spell. -/
def digitsValue (digits : List Char) : Nat :=
  digits.foldl (fun total digit => total * 10 + (digit.toNat - 0x30)) 0

/-- The digits after a decimal point, if at least one follows it. -/
def takeFraction (cs : List Char) : Option (List Char × List Char) :=
  match cs with
  | '.' :: rest =>
    let digits := rest.takeWhile Char.isDigit
    if digits.isEmpty then none else some (digits, rest.dropWhile Char.isDigit)
  | _ => none

/-- The power of ten after an exponent mark, if at least one digit follows it. -/
def takeExponent (cs : List Char) : Option (Int × List Char) :=
  match cs with
  | mark :: rest =>
    if mark = 'e' ∨ mark = 'E' then
      let (negative, unsigned) := takeSign rest
      let digits := unsigned.takeWhile Char.isDigit
      if digits.isEmpty then none
      else
        let size : Int := digitsValue digits
        some (if negative then -size else size, unsigned.dropWhile Char.isDigit)
    else none
  | [] => none

/-- The whole part of a number: a zero, or digits that start with none. -/
def takeWhole? (cs : List Char) : Option (List Char × List Char) :=
  match cs with
  | '0' :: rest => some (['0'], rest)
  | c :: _ =>
    if c.isDigit then some (cs.takeWhile Char.isDigit, cs.dropWhile Char.isDigit) else none
  | [] => none

/-- Read a number after its sign. -/
def readNumber (negative : Bool) (cs : List Char) : Except Fault (Value × List Char) :=
  match takeWhole? cs with
  | none => .error .malformed
  | some (whole, rest) =>
    let fraction := takeFraction rest
    let afterFraction := (fraction.map Prod.snd).getD rest
    let exponent := takeExponent afterFraction
    if fraction.isNone && exponent.isNone then
      if whole.length > maxDigits then .error (.number (.tooLong whole.length))
      else
        let size : Int := digitsValue whole
        .ok (.int (if negative then -size else size), rest)
    else
      let places := (fraction.map Prod.fst).getD []
      let power := (exponent.map Prod.fst).getD 0
      let digits := digitsValue (whole ++ places)
      let float := Binary64.ofDecimal negative digits (power - places.length)
      .ok (.float float, (exponent.map Prod.snd).getD afterFraction)

/-- The words that are values. -/
def words : List (String × Value) :=
  [("null", .null), ("true", .bool true), ("false", .bool false), ("NaN", .float .nan),
    ("Infinity", .float (.infinite false)), ("-Infinity", .float (.infinite true))]

/-- Read a word that is a value. -/
def readWord? (cs : List Char) : Option (Value × List Char) :=
  words.findSome? fun (word, value) => (dropWord? word.toList cs).map (value, ·)

/-- Put the members of an object together, the last value of a key winning. -/
def gather (members : List (String × Value)) : List (Value × Value) :=
  members.foldl (fun entries member => Value.insertEntry (.text member.1) member.2 entries) []

/-- How deep arrays and objects may stand in each other. -/
def maxDepth : Nat := 985

mutual

/-- Read one value, with a bound on the depth of the calls.  `room` is how much deeper
arrays and objects may be. -/
def readValue : Nat → Nat → List Char → Except Fault (Value × List Char)
  | 0, _, _ => .error .malformed
  | fuel + 1, room, cs =>
    match cs with
    | '"' :: rest =>
      match decodeString? rest with
      | some (text, rest) => .ok (.text (String.ofList text), rest)
      | none => .error .malformed
    | '[' :: rest =>
      if room = 0 then .error .tooDeep
      else
        match skipSpace rest with
        | ']' :: rest => .ok (.list [], rest)
        | rest => (readItems fuel (room - 1) rest).map fun (items, rest) => (.list items, rest)
    | '{' :: rest =>
      if room = 0 then .error .tooDeep
      else
        match skipSpace rest with
        | '}' :: rest => .ok (.table [], rest)
        | rest =>
          (readMembers fuel (room - 1) rest).map fun (members, rest) =>
            (.table (gather members), rest)
    | cs =>
      match readWord? cs with
      | some answer => .ok answer
      | none =>
        match cs with
        | '-' :: rest => readNumber true rest
        | cs => readNumber false cs

/-- Read the items of an array up to its closing bracket. -/
def readItems : Nat → Nat → List Char → Except Fault (List Value × List Char)
  | 0, _, _ => .error .malformed
  | fuel + 1, room, cs => do
    let (item, rest) ← readValue fuel room cs
    match skipSpace rest with
    | ']' :: rest => .ok ([item], rest)
    | ',' :: rest =>
      let (items, rest) ← readItems fuel room (skipSpace rest)
      .ok (item :: items, rest)
    | _ => .error .malformed

/-- Read the members of an object up to its closing brace. -/
def readMembers : Nat → Nat → List Char → Except Fault (List (String × Value) × List Char)
  | 0, _, _ => .error .malformed
  | fuel + 1, room, cs =>
    match cs with
    | '"' :: rest =>
      match decodeString? rest with
      | none => .error .malformed
      | some (key, rest) =>
        match skipSpace rest with
        | ':' :: rest => do
          let (value, rest) ← readValue fuel room (skipSpace rest)
          match skipSpace rest with
          | '}' :: rest => .ok ([(String.ofList key, value)], rest)
          | ',' :: rest =>
            let (members, rest) ← readMembers fuel room (skipSpace rest)
            .ok ((String.ofList key, value) :: members, rest)
          | _ => .error .malformed
        | _ => .error .malformed
    | _ => .error .malformed

end

/-- Read a whole text as one JSON value.  Every call of the readers but one in two
takes a character, which bounds their depth. -/
def read (text : String) : Except Fault Value := do
  let cs := text.toList
  let (value, rest) ← readValue (2 * cs.length + 2) maxDepth (skipSpace cs)
  if (skipSpace rest).isEmpty then .ok value else .error .malformed

end AgentFlow.Json
