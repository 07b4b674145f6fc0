import AgentFlow.Text.Quoted
import AgentFlow.Value.Fault

/-!
# How values are shown

The text of a value where a text is wanted: a text as it is, and anything else in
a fixed notation, in which the texts inside of a list or a table are quoted.  A value
with an integer of too many digits is not shown.
-/

namespace AgentFlow.Value

open AgentFlow.Number AgentFlow.Text

/-- Pieces with a comma and a space between each two. -/
def commaSeparated : List (List Char) → List Char
  | [] => []
  | [piece] => piece
  | piece :: pieces => piece ++ ',' :: ' ' :: commaSeparated pieces

/-- A call notation: a name and its arguments in parentheses. -/
def callNotation (name : String) (arguments : List (List Char)) : List Char :=
  name.toList ++ '(' :: commaSeparated arguments ++ [')']

/-- The numbers with their zeros at the end left out, at most the last two. -/
def dropZeroTail (fixed : List Nat) (second microsecond : Nat) : List (List Char) :=
  let tail :=
    if microsecond != 0 then [second, microsecond] else if second != 0 then [second] else []
  (fixed ++ tail).map (Nat.toDigits 10)

/-- An offset from UTC inside of a shown date-time. -/
def shownOffset (minutes : Int) : List Char :=
  if minutes = 0 then "datetime.timezone.utc".toList
  else
    let days := minutes.fdiv (24 * 60)
    let seconds := (minutes - days * 24 * 60) * 60
    let daysPart := if days = 0 then [] else ["days=".toList ++ integerChars days]
    let secondsPart := if seconds = 0 then [] else ["seconds=".toList ++ integerChars seconds]
    callNotation "datetime.timezone" [callNotation "datetime.timedelta" (daysPart ++ secondsPart)]

/-- A date inside of a list or a table. -/
def shownDate (d : Date) : List Char :=
  callNotation "datetime.date" ([d.year, d.month, d.day].map (Nat.toDigits 10))

/-- A time of day inside of a list or a table. -/
def shownTime (t : TimeOfDay) : List Char :=
  callNotation "datetime.time" (dropZeroTail [t.hour, t.minute] t.second t.microsecond)

/-- A date-time inside of a list or a table. -/
def shownDateTime (d : DateTime) : List Char :=
  let fixed := [d.date.year, d.date.month, d.date.day, d.time.hour, d.time.minute]
  let offset := (d.offset.map fun minutes => ["tzinfo=".toList ++ shownOffset minutes]).getD []
  callNotation "datetime.datetime" (dropZeroTail fixed d.time.second d.time.microsecond ++ offset)

/-- One octet of a shown sequence of octets. -/
def shownOctet (mark : Char) (octet : UInt8) : List Char :=
  let c := Char.ofNat octet.toNat
  if octet.toNat < 0x80 then quotedChar mark c
  else '\\' :: 'x' :: hexDigits 2 octet.toNat

/-- Octets inside of a list or a table, and on their own. -/
def shownOctets (octets : List UInt8) : List Char :=
  let mark := quoteMark (octets.map fun octet => Char.ofNat octet.toNat)
  'b' :: mark :: octets.flatMap (shownOctet mark) ++ [mark]

mutual

/-- A value inside of a list or a table. -/
def shown : Value → List Char
  | .null => "None".toList
  | .bool true => "True".toList
  | .bool false => "False".toList
  | .int n => integerChars n
  | .float x => x.chars
  | .text s => quotedChars s.toList
  | .bytes octets => shownOctets octets
  | .date d => shownDate d
  | .time t => shownTime t
  | .dateTime d => shownDateTime d
  | .list items => '[' :: commaSeparated (shownItems items) ++ [']']
  | .tuple items =>
    match items with
    | [item] => '(' :: shown item ++ [',', ')']
    | items => '(' :: commaSeparated (shownItems items) ++ [')']
  | .set items =>
    match items with
    | [] => "set()".toList
    | items => '{' :: commaSeparated (shownItems items) ++ ['}']
  | .table entries => '{' :: commaSeparated (shownEntries entries) ++ ['}']
  | .enclosing .square => "[...]".toList
  | .enclosing .round => "(...)".toList
  | .enclosing .curly => "\x7b...\x7d".toList

/-- The items of a list, each as `shown`. -/
def shownItems : List Value → List (List Char)
  | [] => []
  | item :: items => shown item :: shownItems items

/-- The entries of a table, key and value as `shown`. -/
def shownEntries : List (Value × Value) → List (List Char)
  | [] => []
  | (key, value) :: entries => (shown key ++ ':' :: ' ' :: shown value) :: shownEntries entries

end

/-- The text of a value. -/
def display : Value → List Char
  | .text s => s.toList
  | .date d => d.chars
  | .time t => t.chars
  | .dateTime d => d.chars
  | value => shown value

mutual

/-- The first integer of a value that has more digits than are shown. -/
def longInteger? : Value → Option Int
  | .int n => if Nat.pow 10 maxDigits ≤ n.natAbs then some n else none
  | .list items => longIntegerAmong? items
  | .tuple items => longIntegerAmong? items
  | .set items => longIntegerAmong? items
  | .table entries => longIntegerWithin? entries
  | _ => none

/-- The first integer of some values that has more digits than are shown. -/
def longIntegerAmong? : List Value → Option Int
  | [] => none
  | item :: items => (longInteger? item).or (longIntegerAmong? items)

/-- The first integer of some entries that has more digits than are shown. -/
def longIntegerWithin? : List (Value × Value) → Option Int
  | [] => none
  | (key, value) :: entries =>
    (longInteger? key).or ((longInteger? value).or (longIntegerWithin? entries))

end

/-- `display` as a string. -/
def displayText (v : Value) : String := String.ofList v.display

/-- The text of a value, if its integers are not too long to be shown. -/
def displayed (v : Value) : Except ValueFault String :=
  match v.longInteger? with
  | some n => .error (.integer (.tooLong (integerChars n).length))
  | none => .ok v.displayText

/-- The text of a text is the text. -/
theorem displayText_text (s : String) : displayText (.text s) = s := by
  simp [displayText, display]

end AgentFlow.Value
