import AgentFlow.Text.Digit
import AgentFlow.Text.Quoted
import AgentFlow.Text.Utf16
import AgentFlow.Yaml.Cursor

/-!
# Quoted scalars

Texts between single or double quotes.  Line ends inside of them are folded, and only
double quotes know escapes.
-/

namespace AgentFlow.Yaml

open AgentFlow.Text

/-- The characters that are escaped by a letter or by themselves. -/
def escapes : List (Char × Char) :=
  [('0', '\x00'), ('a', '\x07'), ('b', '\x08'), ('t', '\t'), ('\t', '\t'), ('n', '\n'),
    ('v', '\x0B'), ('f', '\x0C'), ('r', '\r'), ('e', '\x1B'), (' ', ' '), ('"', '"'),
    ('\\', '\\'), ('/', '/'), ('N', '\x85'), ('_', '\xA0'), ('L', '\u2028'), ('P', '\u2029')]

/-- The number of digits after a letter that escapes a character by its code. -/
def codeLength? (c : Char) : Option Nat :=
  if c = 'x' then some 2 else if c = 'u' then some 4 else if c = 'U' then some 8 else none

/-- The value of a number of hexadecimal digits. -/
def hexNumber? (digits : List Char) : Option Nat :=
  digits.foldl (fun total digit => do return (← total) * 16 + (← hexValue? digit)) (some 0)

/-- The character of a code. -/
def charOfCode (code : Nat) : Except Fault Char :=
  if 0x10FFFF < code then .error (.value (.character code)) else .ok (loneUnit code)

/-- A code, read at the letter that says how many digits it has. -/
def takeCode? (cursor : Cursor) : Option (Nat × Cursor) := do
  let count ← codeLength? cursor.peek
  let digits := cursor.next.rest.take count
  let code ← hexNumber? digits
  if digits.length = count then some (code, cursor.skip (count + 1)) else none

/-- The second half of a surrogate pair that follows as an escape of its own. -/
def takeLowUnit? (cursor : Cursor) : Option (Nat × Cursor) :=
  if cursor.peek = '\\' then (takeCode? cursor.next).filter fun (code, _) => isLowUnit code
  else none

/-- Line ends and the blanks before them. -/
def takeBreaks : Nat → Cursor → Except Fault (List Char × Cursor)
  | 0, _ => .error .malformed
  | fuel + 1, cursor =>
    if cursor.atDocumentMark then .error .malformed
    else
      let cursor := cursor.skipWhile fun c => c == ' ' || c == '\t'
      if isBreak cursor.peek then do
        let (first, cursor) := cursor.takeBreak
        let (others, cursor) ← takeBreaks fuel cursor
        .ok (first ++ others, cursor)
      else .ok ([], cursor)

/-- An escape, read after its backslash. -/
def takeEscape (cursor : Cursor) : Except Fault (List Char × Cursor) :=
  let c := cursor.peek
  match escapes.lookup c with
  | some escaped => .ok ([escaped], cursor.next)
  | none =>
    match takeCode? cursor with
    | some (code, cursor) =>
      match (if isHighUnit code then takeLowUnit? cursor else none) with
      | some (low, cursor) => .ok ([pairedUnits code low], cursor)
      | none => (charOfCode code).map fun character => ([character], cursor)
    | none =>
      if isBreak c then takeBreaks cursor.bound cursor.takeBreak.2 else .error .malformed

/-- The characters up to a blank, a line end or the closing quote. -/
def takeQuotedWord (double : Bool) : Nat → Cursor → Except Fault (List Char × Cursor)
  | 0, _ => .error .malformed
  | fuel + 1, cursor =>
    let c := cursor.peek
    let isSingle := c == singleQuote
    let add (taken : List Char) (cursor : Cursor) : Except Fault (List Char × Cursor) :=
      (takeQuotedWord double fuel cursor).map fun (rest, cursor) => (taken ++ rest, cursor)
    if !(isSingle || c == '"' || c == '\\' || isBlankOrEnd c) then add [c] cursor.next
    else if !double && isSingle && cursor.peekAt 1 == singleQuote then
      add [singleQuote] (cursor.skip 2)
    else if (double && isSingle) || (!double && (c == '"' || c == '\\')) then add [c] cursor.next
    else if double && c == '\\' then do
      let (escaped, cursor) ← takeEscape cursor.next
      add escaped cursor
    else .ok ([], cursor)

/-- The blanks between words.  One line end is a space, more of them are one less. -/
def takeQuotedSpace (cursor : Cursor) : Except Fault (List Char × Cursor) :=
  let (blanks, cursor) := cursor.takeWhile fun c => c == ' ' || c == '\t'
  if cursor.peek = endMark then .error .malformed
  else if isBreak cursor.peek then do
    let (first, cursor) := cursor.takeBreak
    let (others, cursor) ← takeBreaks cursor.bound cursor
    let folded :=
      if first != ['\n'] then first else if others.isEmpty then [' '] else []
    .ok (folded ++ others, cursor)
  else .ok (blanks, cursor)

/-- Words and the blanks between them, up to the closing quote. -/
def takeQuotedRest (double : Bool) (mark : Char) : Nat → Cursor → Except Fault (List Char × Cursor)
  | 0, _ => .error .malformed
  | fuel + 1, cursor => do
    let (word, cursor) ← takeQuotedWord double cursor.bound cursor
    if cursor.peek = mark then .ok (word, cursor.next)
    else
      let (space, cursor) ← takeQuotedSpace cursor
      let (rest, cursor) ← takeQuotedRest double mark fuel cursor
      .ok (word ++ space ++ rest, cursor)

/-- A quoted scalar, read at its opening quote. -/
def takeQuoted (cursor : Cursor) : Except Fault (List Char × Cursor) :=
  let mark := cursor.peek
  takeQuotedRest (mark == '"') mark cursor.bound cursor.next

end AgentFlow.Yaml
