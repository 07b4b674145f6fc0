import AgentFlow.Number.Decimal
import AgentFlow.Value.Display
import AgentFlow.Value.Fault

/-!
# Patterns with places

The text of a record may be a pattern.  A percent sign starts a place, which says how an
argument is laid out: flags, a width, a precision, and a letter for the kind of the
argument.  The width and the precision may be arguments too, and if the only argument is
a table, a place may name the entry it shows.
-/

namespace AgentFlow.Log

open AgentFlow.Number AgentFlow.Text

/-- How an argument is laid out. -/
structure Layout where
  left : Bool
  plus : Bool
  space : Bool
  marked : Bool
  zeros : Bool
  width : Nat
  precision : Option Nat
  deriving DecidableEq, Repr

/-- A number in parts: its sign, the mark of its base, and the rest. -/
structure Numeral where
  negative : Bool
  mark : List Char
  body : List Char
  deriving DecidableEq, Repr

/-- A text filled up with spaces to a width. -/
def pad (layout : Layout) (cs : List Char) : List Char :=
  let fill := List.replicate (layout.width - cs.length) ' '
  if layout.left then cs ++ fill else fill ++ cs

/-- A text laid out, cut to the precision. -/
def layText (layout : Layout) (cs : List Char) : List Char :=
  pad layout (match layout.precision with
    | some precision => cs.take precision
    | none => cs)

/-- A number laid out.  Zeros stand between its sign and its digits, spaces around it. -/
def layNumeral (layout : Layout) (numeral : Numeral) : List Char :=
  let sign :=
    if numeral.negative then ['-']
    else if layout.plus then ['+']
    else if layout.space then [' ']
    else []
  let start := sign ++ numeral.mark
  if layout.zeros && !layout.left then
    start ++ zeroFilled (layout.width - start.length) numeral.body
  else pad layout (start ++ numeral.body)

/-- An integer in a base.  The precision is the least number of its digits. -/
def integerNumeral (layout : Layout) (base : Nat) (mark : List Char) (n : Int) : Numeral :=
  ⟨n < 0, if layout.marked then mark else [],
    zeroFilled (layout.precision.getD 0) (Nat.toDigits base n.natAbs)⟩

/-- A number in capital letters. -/
def Numeral.capital (numeral : Numeral) : Numeral :=
  { numeral with mark := numeral.mark.map Char.toUpper, body := numeral.body.map Char.toUpper }

/-- The integer that an argument stands for, its fraction cut off. -/
def wholeOf (value : Value) : Except ValueFault Int :=
  match value with
  | .float x =>
    match x.truncate? with
    | some n => .ok n
    | none => .error (if x = .nan then .nanCount else .infiniteCount)
  | value =>
    match value.integer? with
    | some n => .ok n
    | none => .error (.wrongKind .pattern value.kind)

/-- The integer that an argument is. -/
def integerOf (value : Value) : Except ValueFault Int :=
  match value.integer? with
  | some n => .ok n
  | none => .error (.wrongKind .pattern value.kind)

/-- The floating-point number that an argument stands for. -/
def floatOf (value : Value) : Except ValueFault Binary64 :=
  match value with
  | .float x => .ok x
  | value => do
    match Binary64.ofInt (← integerOf value) with
    | .infinite _ => .error .hugeFloat
    | x => .ok x

/-- A floating-point number in a notation. -/
def floatNumeral (layout : Layout) (style : DecimalStyle) (x : Binary64) : Numeral :=
  ⟨x.isNegative, [], x.unsignedChars style layout.marked (layout.precision.getD 6)⟩

/-- The character that an argument is, or is the code of. -/
def characterOf (value : Value) : Except ValueFault Char :=
  match value with
  | .text s =>
    match s.toList with
    | [c] => .ok c
    | _ => .error (.wrongKind .pattern .text)
  | value => do
    let code ← integerOf value
    if 0 ≤ code ∧ code ≤ 0x10FFFF then .ok (Char.ofNat code.toNat) else .error (.outOfRange code)

/-- A character in ASCII: any other is written by its code. -/
def asciiChar (c : Char) : List Char :=
  let n := c.toNat
  if n < 0x80 then [c]
  else if n < 0x100 then '\\' :: 'x' :: hexDigits 2 n
  else if n < 0x10000 then '\\' :: 'u' :: hexDigits 4 n
  else '\\' :: 'U' :: hexDigits 8 n

/-- An argument laid out as a letter asks for it. -/
def layArgument (layout : Layout) (letter : Char) (value : Value) :
    Except ValueFault (List Char) :=
  let integer (base : Nat) (mark : List Char) (n : Int) : Numeral :=
    integerNumeral layout base mark n
  let float (style : DecimalStyle) : Except ValueFault Numeral :=
    (floatOf value).map (floatNumeral layout style)
  let numeral (n : Except ValueFault Numeral) : Except ValueFault (List Char) :=
    n.map (layNumeral layout)
  match letter with
  | 's' => .ok (layText layout value.display)
  | 'r' => .ok (layText layout value.shown)
  | 'a' => .ok (layText layout (value.shown.flatMap asciiChar))
  | 'c' => (characterOf value).map fun c => pad layout [c]
  | 'd' => numeral ((wholeOf value).map (integer 10 []))
  | 'i' => numeral ((wholeOf value).map (integer 10 []))
  | 'u' => numeral ((wholeOf value).map (integer 10 []))
  | 'o' => numeral ((integerOf value).map (integer 8 ['0', 'o']))
  | 'x' => numeral ((integerOf value).map (integer 16 ['0', 'x']))
  | 'X' => numeral ((integerOf value).map fun n => (integer 16 ['0', 'x'] n).capital)
  | 'e' => numeral (float .scientific)
  | 'E' => numeral ((float .scientific).map Numeral.capital)
  | 'f' => numeral (float .fixed)
  | 'F' => numeral ((float .fixed).map Numeral.capital)
  | 'g' => numeral (float .general)
  | 'G' => numeral ((float .general).map Numeral.capital)
  | _ => .error .pattern

/-- The filling of a pattern: what is left of it, the arguments that are not used yet,
and the entries that places may name. -/
structure Filling where
  rest : List Char
  arguments : List Value
  named : Option (List (Value × Value))

/-- A part of the filling of a pattern. -/
abbrev Filler := StateT Filling (Except ValueFault)

namespace Filler

/-- The next argument. -/
def argument : Filler Value := do
  match (← get).arguments with
  | value :: arguments =>
    modify fun filling => { filling with arguments := arguments }
    return value
  | [] => throw (.wrongKind .pattern .tuple)

/-- The next character of the pattern, which must not end here. -/
def character : Filler Char := do
  match (← get).rest with
  | c :: rest =>
    modify fun filling => { filling with rest := rest }
    return c
  | [] => throw .pattern

/-- Take the next character away, if it is a given one. -/
def sees (wanted : Char) : Filler Bool := do
  match (← get).rest with
  | c :: rest =>
    if c = wanted then
      modify fun filling => { filling with rest := rest }
      return true
    else return false
  | [] => return false

/-- The longest run of characters of a class. -/
def takeRun (belongs : Char → Bool) : Filler (List Char) :=
  modifyGet fun filling =>
    (filling.rest.takeWhile belongs, { filling with rest := filling.rest.dropWhile belongs })

/-- Split a text at the parenthesis that closes the open ones. -/
def splitAtClosing? : Nat → List Char → Option (List Char × List Char)
  | _, [] => none
  | depth, c :: rest =>
    if c = ')' ∧ depth = 0 then some ([], rest)
    else
      let depth := if c = '(' then depth + 1 else if c = ')' then depth - 1 else depth
      (splitAtClosing? depth rest).map fun (name, rest) => (c :: name, rest)

/-- The name of an entry in parentheses, which makes the entry the only argument. -/
def takeName : Filler Unit := do
  if ← sees '(' then
    match (← get).named with
    | none => throw (.wrongKind .pattern .tuple)
    | some entries =>
      match splitAtClosing? 0 (← get).rest with
      | none => throw .pattern
      | some (name, rest) =>
        let name := String.ofList name
        match Value.lookup? name entries with
        | some value => modify fun filling => { filling with rest := rest, arguments := [value] }
        | none => throw (.missingField name)

/-- A size that the pattern spells or an argument gives, neither above a limit; none if
there is no size. -/
def takeSize (limit : Nat) : Filler (Option Int) := do
  if ← sees '*' then
    let size ← integerOf (← argument)
    if size < -(limit : Int) - 1 ∨ (limit : Int) < size then throw (.outOfRange size)
    return some size
  else
    let digits ← takeRun Char.isDigit
    let size := ofDigits 10 (digits.map fun c => c.toNat - 0x30)
    if limit < size then throw .pattern
    return if digits.isEmpty then none else some size

/-- The greatest width. -/
def maxWidth : Nat := Nat.pow 2 63 - 1

/-- The greatest precision. -/
def maxPrecision : Nat := Nat.pow 2 31 - 1

/-- The layout of a place.  A negative width puts the text to the left. -/
def takeLayout : Filler Layout := do
  let flags ← takeRun ['-', '+', ' ', '#', '0'].contains
  let width := (← takeSize maxWidth).getD 0
  let precision ←
    if ← sees '.' then pure (some ((← takeSize maxPrecision).getD 0).toNat) else pure none
  return {
    left := flags.contains '-' || width < 0
    plus := flags.contains '+'
    space := flags.contains ' '
    marked := flags.contains '#'
    zeros := flags.contains '0'
    width := width.natAbs
    precision := precision }

/-- Fill in a place, read after its percent sign. -/
def place : Filler (List Char) := do
  if ← sees '%' then return ['%']
  takeName
  let layout ← takeLayout
  let letter ← character
  let letter ← if letter = 'h' ∨ letter = 'l' ∨ letter = 'L' then character else pure letter
  layArgument layout letter (← argument)

/-- Fill in all places of the pattern. -/
def fillAll : Nat → Filler (List Char)
  | 0 => throw .pattern
  | fuel + 1 => do
    let before ← takeRun (· != '%')
    if ← sees '%' then
      let filled ← place
      return before ++ filled ++ (← fillAll fuel)
    else return before

end Filler

/-- The text of a pattern with arguments.  Every argument must have a place, but not every
entry of a table that is the only one. -/
def fillPattern (pattern : List Char) (values : List Value) : Except ValueFault (List Char) := do
  let named :=
    match values with
    | [.table entries] => if entries.isEmpty then none else some entries
    | _ => none
  let (text, filling) ← Filler.fillAll (pattern.length + 1) ⟨pattern, values, named⟩
  match filling.arguments, named with
  | value :: _, none => .error (.wrongKind .pattern value.kind)
  | _, _ => .ok text

end AgentFlow.Log
