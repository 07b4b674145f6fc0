import AgentFlow.Yaml.Cursor

/-!
# Block scalars and plain scalars

Texts without quotes: indented blocks after `|` and `>`, and plain texts in a line
or over several.
-/

namespace AgentFlow.Yaml

/-- What to do with the line ends at the end of a block. -/
inductive Chomping where
  | clip
  | strip
  | keep
  deriving DecidableEq, Repr

/-- The sign that asks for a way of chomping. -/
def chomping? (c : Char) : Option Chomping :=
  if c = '+' then some .keep else if c = '-' then some .strip else none

/-- The digit that gives the indentation; zero is no indentation. -/
def takeIndentDigit (cursor : Cursor) : Except Fault (Option Nat × Cursor) :=
  let c := cursor.peek
  if c.isDigit then
    if c = '0' then .error .malformed else .ok (some (c.toNat - 0x30), cursor.next)
  else .ok (none, cursor)

/-- The signs after the mark of a block, in either order. -/
def takeBlockSigns (cursor : Cursor) : Except Fault (Chomping × Option Nat × Cursor) := do
  let (chomping, increment, cursor) ←
    match chomping? cursor.peek with
    | some chomping => do
      let (increment, cursor) ← takeIndentDigit cursor.next
      pure (chomping, increment, cursor)
    | none => do
      let (increment, cursor) ← takeIndentDigit cursor
      match increment, chomping? cursor.peek with
      | some _, some chomping => pure (chomping, increment, cursor.next)
      | _, _ => pure (Chomping.clip, increment, cursor)
  if isSpaceOrEnd cursor.peek then .ok (chomping, increment, cursor) else .error .malformed

/-- The empty lines before a block, and the greatest column in them. -/
def takeLeadingLines : Nat → Nat → Cursor → List Char × Nat × Cursor
  | 0, widest, cursor => ([], widest, cursor)
  | fuel + 1, widest, cursor =>
    if cursor.peek = ' ' then
      takeLeadingLines fuel (max widest cursor.next.column) cursor.next
    else if isBreak cursor.peek then
      let (first, cursor) := cursor.takeBreak
      let (others, widest, cursor) := takeLeadingLines fuel widest cursor
      (first ++ others, widest, cursor)
    else ([], widest, cursor)

/-- Spaces up to an indentation. -/
def skipIndent (indent : Nat) : Nat → Cursor → Cursor
  | 0, cursor => cursor
  | fuel + 1, cursor =>
    if cursor.column < indent ∧ cursor.peek = ' ' then skipIndent indent fuel cursor.next
    else cursor

/-- The empty lines between the lines of a block, each after its indentation. -/
def takeBlockBreaks (indent : Nat) : Nat → Cursor → List Char × Cursor
  | 0, cursor => ([], cursor)
  | fuel + 1, cursor =>
    let cursor := skipIndent indent (indent + 1) cursor
    if isBreak cursor.peek then
      let (first, cursor) := cursor.takeBreak
      let (others, cursor) := takeBlockBreaks indent fuel cursor
      (first ++ others, cursor)
    else ([], cursor)

/-- The lines of a block: the text, the line end of its last line, the line ends
after that, and the place after the block. -/
def takeBlockLines (folded : Bool) (indent : Nat) :
    Nat → List Char → Cursor → List Char × List Char × List Char × Cursor
  | 0, breaks, cursor => ([], [], breaks, cursor)
  | fuel + 1, breaks, cursor =>
    let startsBlank := cursor.peek == ' ' || cursor.peek == '\t'
    let (line, cursor) := cursor.takeWhile (!isLineEnd ·)
    let (lineBreak, cursor) := cursor.takeBreak
    let (following, cursor) := takeBlockBreaks indent cursor.bound cursor
    if cursor.column = indent ∧ cursor.peek ≠ endMark then
      let nextBlank := cursor.peek == ' ' || cursor.peek == '\t'
      let joint :=
        if folded && lineBreak == ['\n'] && !startsBlank && !nextBlank then
          if following.isEmpty then [' '] else []
        else lineBreak
      let (text, lastBreak, trailing, cursor) :=
        takeBlockLines folded indent fuel following cursor
      (breaks ++ line ++ joint ++ text, lastBreak, trailing, cursor)
    else (breaks ++ line, lineBreak, following, cursor)

/-- A block scalar, read at its mark.  `parent` is the indentation around it, one more
than its column. -/
def takeBlock (parent : Nat) (cursor : Cursor) : Except Fault (List Char × Cursor) := do
  let folded := cursor.peek == '>'
  let (chomping, increment, cursor) ← takeBlockSigns cursor.next
  let cursor ← cursor.endLine
  let least := max parent 1
  let (indent, breaks, cursor) :=
    match increment with
    | some increment =>
      let indent := least + increment - 1
      let (breaks, cursor) := takeBlockBreaks indent cursor.bound cursor
      (indent, breaks, cursor)
    | none =>
      let (breaks, widest, cursor) := takeLeadingLines cursor.bound 0 cursor
      (max least widest, breaks, cursor)
  let (text, lastBreak, trailing, cursor) :=
    if cursor.column = indent ∧ cursor.peek ≠ endMark then
      takeBlockLines folded indent cursor.bound breaks cursor
    else ([], [], breaks, cursor)
  match chomping with
  | .clip => .ok (text ++ lastBreak, cursor)
  | .strip => .ok (text, cursor)
  | .keep => .ok (text ++ lastBreak ++ trailing, cursor)

/-- Whether a plain scalar ends at a place. -/
def endsPlain (inFlow : Bool) (c after : Char) : Bool :=
  isBlankOrEnd c ||
    (c == ':' && (isBlankOrEnd after || (inFlow && [',', '[', ']', '{', '}'].contains after))) ||
    (inFlow && [',', '?', '[', ']', '{', '}'].contains c)

/-- The characters of a plain scalar up to a blank. -/
def takePlainWord (inFlow : Bool) : Nat → Cursor → List Char × Cursor
  | 0, cursor => ([], cursor)
  | fuel + 1, cursor =>
    if endsPlain inFlow cursor.peek (cursor.peekAt 1) then ([], cursor)
    else
      let (word, after) := takePlainWord inFlow fuel cursor.next
      (cursor.peek :: word, after)

/-- The line ends after the first one inside of a plain scalar; none if a document
starts or ends there. -/
def takePlainBreaks : Nat → Cursor → Option (List Char) × Cursor
  | 0, cursor => (some [], cursor)
  | fuel + 1, cursor =>
    if cursor.peek = ' ' then takePlainBreaks fuel cursor.next
    else if isBreak cursor.peek then
      let (first, cursor) := cursor.takeBreak
      if cursor.atDocumentMark then (none, cursor)
      else
        let (others, cursor) := takePlainBreaks fuel cursor
        (others.map (first ++ ·), cursor)
    else (some [], cursor)

/-- The blanks after a word of a plain scalar: what they stand for, whether a line
ended, and the place after them.  Nothing for a document mark. -/
def takePlainSpace (cursor : Cursor) : Option (List Char) × Bool × Cursor :=
  let (blanks, cursor) := cursor.takeWhile (· == ' ')
  if isBreak cursor.peek then
    let (first, cursor) := cursor.takeBreak
    if cursor.atDocumentMark then (none, true, cursor)
    else
      let (others, cursor) := takePlainBreaks cursor.bound cursor
      let folded (others : List Char) :=
        (if first != ['\n'] then first else if others.isEmpty then [' '] else []) ++ others
      (others.map folded, true, cursor)
  else (some blanks, false, cursor)

/-- A plain scalar.  `spaces` stands before the next word, and `brokeLine` tells
whether a line ended after the last one. -/
def takePlain (inFlow : Bool) (indent : Nat) :
    Nat → List Char → Bool → Cursor → List Char × Bool × Cursor
  | 0, _, brokeLine, cursor => ([], brokeLine, cursor)
  | fuel + 1, spaces, brokeLine, cursor =>
    if cursor.peek = '#' then ([], brokeLine, cursor)
    else
      let (word, cursor) := takePlainWord inFlow cursor.bound cursor
      if word.isEmpty then ([], brokeLine, cursor)
      else
        let (space, broke, cursor) := takePlainSpace cursor
        match space with
        | some (c :: space) =>
          if cursor.peek = '#' ∨ (!inFlow ∧ cursor.column < indent) then
            (spaces ++ word, broke, cursor)
          else
            let (rest, broke, cursor) := takePlain inFlow indent fuel (c :: space) broke cursor
            (spaces ++ word ++ rest, broke, cursor)
        | _ => (spaces ++ word, broke, cursor)

end AgentFlow.Yaml
