import AgentFlow.Value.Fault

/-!
# Reading positions

A place in a YAML text: what is left to read, and how far it is from the start of the
text and of the line.  Past the end stands the character of code zero, which no YAML
text holds.
-/

namespace AgentFlow.Yaml

/-- Why a text is not read as YAML. -/
inductive Fault where
  | malformed
  | value (fault : ValueFault)
  deriving DecidableEq, Repr

/-- The character past the end. -/
def endMark : Char := '\x00'

/-- The characters that end a line. -/
def isBreak (c : Char) : Bool :=
  c == '\n' || c == '\r' || c == '\x85' || c == '\u2028' || c == '\u2029'

/-- A line ends here, or the text does. -/
def isLineEnd (c : Char) : Bool := isBreak c || c == endMark

/-- A space, or the end of a line. -/
def isSpaceOrEnd (c : Char) : Bool := c == ' ' || isLineEnd c

/-- A space or a tab, or the end of a line. -/
def isBlankOrEnd (c : Char) : Bool := c == '\t' || isSpaceOrEnd c

/-- A letter, digit, hyphen or underscore. -/
def isNameChar (c : Char) : Bool := c.isAlphanum || c == '-' || c == '_'

/-- The characters that a text may hold. -/
def isAllowed (c : Char) : Bool :=
  let n := c.toNat
  n == 0x09 || n == 0x0A || n == 0x0D || (0x20 ≤ n && n ≤ 0x7E) || n == 0x85 ||
    (0xA0 ≤ n && n ≤ 0xD7FF) || (0xE000 ≤ n && n ≤ 0xFFFD) || 0x10000 ≤ n

/-- A place in a text. -/
structure Cursor where
  rest : List Char
  index : Nat
  line : Nat
  column : Nat
  deriving Repr

namespace Cursor

/-- The start of a text. -/
def start (cs : List Char) : Cursor := ⟨cs, 0, 0, 0⟩

/-- The character at a distance. -/
def peekAt (cursor : Cursor) (distance : Nat) : Char := cursor.rest.getD distance endMark

/-- The character here. -/
def peek (cursor : Cursor) : Char := cursor.peekAt 0

/-- The place after one character. -/
def next (cursor : Cursor) : Cursor :=
  match cursor.rest with
  | [] => cursor
  | c :: rest =>
    if c = '\r' ∧ rest.head? = some '\n' then
      ⟨rest, cursor.index + 1, cursor.line, cursor.column + 1⟩
    else if isBreak c then ⟨rest, cursor.index + 1, cursor.line + 1, 0⟩
    else if c = '\uFEFF' then ⟨rest, cursor.index + 1, cursor.line, cursor.column⟩
    else ⟨rest, cursor.index + 1, cursor.line, cursor.column + 1⟩

/-- The place after a number of characters. -/
def skip (cursor : Cursor) : Nat → Cursor
  | 0 => cursor
  | count + 1 => cursor.next.skip count

/-- A number of steps that no loop over the text exceeds. -/
def bound (cursor : Cursor) : Nat := cursor.rest.length + 1

/-- The longest run of characters of a class, and the place after it. -/
def takeWhile (cursor : Cursor) (belongs : Char → Bool) : List Char × Cursor :=
  let run := cursor.rest.takeWhile belongs
  (run, cursor.skip run.length)

/-- The place after the longest run of characters of a class. -/
def skipWhile (cursor : Cursor) (belongs : Char → Bool) : Cursor :=
  (cursor.takeWhile belongs).2

/-- The place after the spaces. -/
def skipSpaces (cursor : Cursor) : Cursor := cursor.skipWhile (· == ' ')

/-- A line end as a text holds it, empty if no line ends here. -/
def takeBreak (cursor : Cursor) : List Char × Cursor :=
  let c := cursor.peek
  if c = '\r' ∧ cursor.peekAt 1 = '\n' then (['\n'], cursor.skip 2)
  else if c = '\n' ∨ c = '\r' ∨ c = '\x85' then (['\n'], cursor.next)
  else if c = '\u2028' ∨ c = '\u2029' then ([c], cursor.next)
  else ([], cursor)

/-- Whether the next three characters are the given one, with a blank or an end after
them. -/
def atMark (cursor : Cursor) (c : Char) : Bool :=
  cursor.peek == c && cursor.peekAt 1 == c && cursor.peekAt 2 == c && isBlankOrEnd (cursor.peekAt 3)

/-- Whether a document starts or ends here. -/
def atDocumentMark (cursor : Cursor) : Bool := cursor.atMark '-' || cursor.atMark '.'

/-- Nothing but a comment may follow on the line; the place after it. -/
def endLine (cursor : Cursor) : Except Fault Cursor :=
  let afterSpaces := cursor.skipSpaces
  let afterComment :=
    if afterSpaces.peek = '#' then afterSpaces.skipWhile (!isLineEnd ·) else afterSpaces
  if isLineEnd afterComment.peek then .ok afterComment.takeBreak.2 else .error .malformed

end Cursor

end AgentFlow.Yaml
