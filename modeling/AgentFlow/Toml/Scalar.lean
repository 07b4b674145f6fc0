import AgentFlow.Value.Basic

/-!
# TOML numbers, dates and times

The longest number, date or time at the start of a text.  A date is tried first,
then a time of day, then a number.
-/

namespace AgentFlow.Toml

open AgentFlow.Number AgentFlow.Text

/-- Why a text is not read as TOML. -/
inductive Fault where
  | malformed
  | tooDeep
  | number (fault : IntegerFault)
  deriving DecidableEq, Repr

/-- A number of exactly `count` ASCII digits. -/
def takeDigits? : Nat → Nat → List Char → Option (Nat × List Char)
  | 0, value, cs => some (value, cs)
  | count + 1, value, c :: rest =>
    if c.isDigit then takeDigits? count (value * 10 + (c.toNat - 0x30)) rest else none
  | _ + 1, _, [] => none

/-- A given character. -/
def takeChar? (wanted : Char) : List Char → Option (List Char)
  | c :: rest => if c = wanted then some rest else none
  | [] => none

/-- The microseconds that the digits after a decimal point spell. -/
def microseconds (digits : List Char) : Nat :=
  ofDigits 10 ((digits ++ List.replicate 6 '0').take 6 |>.map fun c => c.toNat - 0x30)

/-- A time of day. -/
def takeTime? (cs : List Char) : Option (TimeOfDay × List Char) := do
  let (hour, rest) ← takeDigits? 2 0 cs
  let (minute, rest) ← takeDigits? 2 0 (← takeChar? ':' rest)
  let (second, rest) ← takeDigits? 2 0 (← takeChar? ':' rest)
  let (micro, rest) :=
    match rest with
    | '.' :: fraction =>
      let digits := fraction.takeWhile Char.isDigit
      if digits.isEmpty then (0, rest) else (microseconds digits, fraction.dropWhile Char.isDigit)
    | rest => (0, rest)
  match TimeOfDay.make? hour minute second micro with
  | .ok time => some (time, rest)
  | .error _ => none

/-- An offset from UTC in minutes. -/
def takeOffset? (cs : List Char) : Option (Int × List Char) :=
  match cs with
  | 'Z' :: rest => some (0, rest)
  | 'z' :: rest => some (0, rest)
  | sign :: rest => do
    if sign ≠ '+' ∧ sign ≠ '-' then none
    let (hour, rest) ← takeDigits? 2 0 rest
    let (minute, rest) ← takeDigits? 2 0 (← takeChar? ':' rest)
    if 23 < hour ∨ 59 < minute then none
    let size : Int := hour * 60 + minute
    some (if sign = '-' then -size else size, rest)
  | [] => none

/-- A date, with a time and an offset if they follow.  The outer option tells
whether a date starts here, the inner one whether there is such a day. -/
def takeDate? (cs : List Char) : Option (Option Value × List Char) := do
  let (year, rest) ← takeDigits? 4 0 cs
  let (month, rest) ← takeDigits? 2 0 (← takeChar? '-' rest)
  let (day, rest) ← takeDigits? 2 0 (← takeChar? '-' rest)
  if month < 1 ∨ 12 < month ∨ day < 1 ∨ 31 < day then none
  let date := (Date.make? year month day).toOption
  let time? :=
    match rest with
    | mark :: rest => if mark = 'T' ∨ mark = 't' ∨ mark = ' ' then takeTime? rest else none
    | [] => none
  match time? with
  | none => some (date.map .date, rest)
  | some (time, rest) =>
    match takeOffset? rest with
    | some (offset, rest) => some (date.map fun date => .dateTime ⟨date, time, some offset⟩, rest)
    | none => some (date.map fun date => .dateTime ⟨date, time, none⟩, rest)

/-- Digits of a base with single underscores between them. -/
def takeDigitRun (isDigit : Char → Bool) : List Char → List Char × List Char
  | c :: rest =>
    if isDigit c then
      match rest with
      | '_' :: d :: after =>
        if isDigit d then
          let (digits, rest) := takeDigitRun isDigit (d :: after)
          (c :: digits, rest)
        else ([c], rest)
      | rest =>
        let (digits, rest) := takeDigitRun isDigit rest
        (c :: digits, rest)
    else ([], c :: rest)
  | [] => ([], [])

/-- A hexadecimal, octal or binary number after its mark. -/
def takeMarked? (base : Nat) (isDigit : Char → Bool) (cs : List Char) :
    Option (Value × List Char) :=
  match takeDigitRun isDigit cs with
  | ([], _) => none
  | (digits, rest) => some (.int (ofDigits base (digits.filterMap hexValue?)), rest)

/-- The mark of a base and the digits after it. -/
def takeMarkedNumber? : List Char → Option (Value × List Char)
  | '0' :: 'x' :: rest => takeMarked? 16 (fun c => (hexValue? c).isSome) rest
  | '0' :: 'b' :: rest => takeMarked? 2 (fun c => c == '0' || c == '1') rest
  | '0' :: 'o' :: rest => takeMarked? 8 (fun c => '0' ≤ c && c ≤ '7') rest
  | _ => none

/-- The number that ASCII digits spell. -/
def digitsValue (digits : List Char) : Nat :=
  ofDigits 10 (digits.map fun c => c.toNat - 0x30)

/-- A decimal number, with a fraction and an exponent if they follow. -/
def takeDecimal? (cs : List Char) : Option (Except Fault Value × List Char) :=
  let (negative, unsigned) := takeSign cs
  let (whole, rest) :=
    match unsigned with
    | '0' :: rest => (['0'], rest)
    | unsigned => takeDigitRun Char.isDigit unsigned
  if whole.isEmpty then none
  else
    let (places, afterFraction) :=
      match rest with
      | '.' :: fraction =>
        match takeDigitRun Char.isDigit fraction with
        | ([], _) => ([], rest)
        | (places, after) => (places, after)
      | rest => ([], rest)
    let exponent? : Option (Int × List Char) :=
      match afterFraction with
      | mark :: after =>
        if mark = 'e' ∨ mark = 'E' then
          let (negative, unsigned) := takeSign after
          match takeDigitRun Char.isDigit unsigned with
          | ([], _) => none
          | (digits, after) =>
            let size : Int := digitsValue digits
            some (if negative then -size else size, after)
        else none
      | [] => none
    if places.isEmpty && exponent?.isNone then
      let size : Int := digitsValue whole
      let read : Except Fault Value :=
        if whole.length > maxDigits then .error (.number (.tooLong whole.length))
        else .ok (.int (if negative then -size else size))
      some (read, rest)
    else
      let power : Int := (exponent?.map Prod.fst).getD 0
      let digits := digitsValue (whole ++ places)
      let float := Binary64.ofDecimal negative digits (power - places.length)
      some (.ok (.float float), (exponent?.map Prod.snd).getD afterFraction)

/-- The text after a word, if it starts with it. -/
def dropWord? : List Char → List Char → Option (List Char)
  | [], cs => some cs
  | w :: word, c :: cs => if w = c then dropWord? word cs else none
  | _ :: _, [] => none

/-- The words that are values. -/
def words : List (String × Value) :=
  [("true", .bool true), ("false", .bool false)]

/-- The words that are numbers. -/
def numberWords : List (String × Value) :=
  [("inf", .float (.infinite false)), ("nan", .float .nan), ("-inf", .float (.infinite true)),
    ("+inf", .float (.infinite false)), ("-nan", .float .nan), ("+nan", .float .nan)]

/-- Read a word of a list. -/
def readWord? (words : List (String × Value)) (cs : List Char) : Option (Value × List Char) :=
  words.findSome? fun (word, value) => (dropWord? word.toList cs).map (value, ·)

/-- Read a truth value, date, time or number. -/
def readScalar (cs : List Char) : Except Fault (Value × List Char) :=
  match readWord? words cs with
  | some answer => .ok answer
  | none =>
    match takeDate? cs with
    | some (some date, rest) => .ok (date, rest)
    | some (none, _) => .error .malformed
    | none =>
      match takeTime? cs with
      | some (time, rest) => .ok (.time time, rest)
      | none =>
        match takeMarkedNumber? cs with
        | some answer => .ok answer
        | none =>
          match takeDecimal? cs with
          | some (read, rest) => read.map (·, rest)
          | none =>
            match readWord? numberWords cs with
            | some answer => .ok answer
            | none => .error .malformed

end AgentFlow.Toml
