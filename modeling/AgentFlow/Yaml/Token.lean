import AgentFlow.Text.Utf8
import AgentFlow.Yaml.Block
import AgentFlow.Yaml.Quoted

/-!
# YAML tokens

The tokens of a text: scalars, names and marks, and the starts and ends of blocks that
the indentation implies.
-/

namespace AgentFlow.Yaml

open AgentFlow.Text

/-- A tag as written: a handle of the document, if any, and the rest. -/
structure RawTag where
  handle : Option (List Char)
  suffix : List Char
  deriving DecidableEq, Repr

/-- What a directive says. -/
inductive Directive where
  | version (major : Nat)
  | tag (handle target : List Char)
  | other
  deriving DecidableEq, Repr

/-- A token. -/
inductive Token where
  | directive (directive : Directive)
  | documentStart
  | documentEnd
  | blockSequenceStart
  | blockMappingStart
  | blockEnd
  | flowSequenceStart
  | flowSequenceEnd
  | flowMappingStart
  | flowMappingEnd
  | blockEntry
  | flowEntry
  | key
  | value
  | alias (name : List Char)
  | anchor (name : List Char)
  | tag (tag : RawTag)
  | scalar (text : List Char) (plain : Bool)
  deriving DecidableEq, Repr

/-- A name of at least one character, with an end of the line or a blank after it. -/
def takeDirectiveName (cursor : Cursor) : Except Fault (List Char × Cursor) :=
  let (name, cursor) := cursor.takeWhile isNameChar
  if name.isEmpty || !isSpaceOrEnd cursor.peek then .error .malformed else .ok (name, cursor)

/-- A decimal number, of as many digits as are converted at most. -/
def takeVersionNumber (cursor : Cursor) : Except Fault (Nat × Cursor) :=
  let (digits, cursor) := cursor.takeWhile Char.isDigit
  if digits.isEmpty then .error .malformed
  else if Number.maxDigits < digits.length then
    .error (.value (.integer (.tooLong digits.length)))
  else .ok (Number.ofDigits 10 (digits.map fun c => c.toNat - 0x30), cursor)

/-- The handle of a tag: exclamation marks, with a name between them if there are two. -/
def takeTagHandle (cursor : Cursor) : Except Fault (List Char × Cursor) :=
  if cursor.peek ≠ '!' then .error .malformed
  else if cursor.peekAt 1 = ' ' then .ok (['!'], cursor.next)
  else
    let (name, cursor) := cursor.next.takeWhile isNameChar
    if cursor.peek = '!' then .ok ('!' :: name ++ ['!'], cursor.next) else .error .malformed

/-- The characters of a tag that stand for themselves. -/
def isTagChar (c : Char) : Bool :=
  c.isAlphanum || [
    '-', ';', '/', '?', ':', '@', '&', '=', '+', '$', ',', '_', '.', '!', '~', '*', singleQuote,
    '(', ')', '[', ']'].contains c

/-- Octets that are written by percent signs and digits. -/
def takeTagOctets : Nat → Cursor → Except Fault (List UInt8 × Cursor)
  | 0, _ => .error .malformed
  | fuel + 1, cursor =>
    if cursor.peek = '%' then
      match hexValue? (cursor.peekAt 1), hexValue? (cursor.peekAt 2) with
      | some high, some low => do
        let (octets, cursor) ← takeTagOctets fuel (cursor.skip 3)
        .ok (UInt8.ofNat (high * 16 + low) :: octets, cursor)
      | _, _ => .error .malformed
    else .ok ([], cursor)

/-- The text of a tag after its handle. -/
def takeTagText : Nat → Cursor → Except Fault (List Char × Cursor)
  | 0, _ => .error .malformed
  | fuel + 1, cursor =>
    let (run, cursor) := cursor.takeWhile isTagChar
    if cursor.peek = '%' then do
      let (octets, cursor) ← takeTagOctets cursor.bound cursor
      match decodeUtf8 octets with
      | .error _ => .error .malformed
      | .ok decoded =>
        let (rest, cursor) ← takeTagText fuel cursor
        .ok (run ++ decoded ++ rest, cursor)
    else .ok (run, cursor)

/-- The text of a tag, which must not be empty. -/
def takeTagSuffix (cursor : Cursor) : Except Fault (List Char × Cursor) := do
  let (text, after) ← takeTagText cursor.bound cursor
  if after.index = cursor.index then .error .malformed else .ok (text, after)

/-- A directive, read at its percent sign. -/
def takeDirective (cursor : Cursor) : Except Fault (Directive × Cursor) := do
  let (name, cursor) ← takeDirectiveName cursor.next
  if name = "YAML".toList then
    let (major, cursor) ← takeVersionNumber cursor.skipSpaces
    if cursor.peek ≠ '.' then .error .malformed
    let (_, cursor) ← takeVersionNumber cursor.next
    if !isSpaceOrEnd cursor.peek then .error .malformed
    .ok (.version major, ← cursor.endLine)
  else if name = "TAG".toList then
    let (handle, cursor) ← takeTagHandle cursor.skipSpaces
    if cursor.peek ≠ ' ' then .error .malformed
    let (target, cursor) ← takeTagSuffix cursor.skipSpaces
    if !isSpaceOrEnd cursor.peek then .error .malformed
    .ok (.tag handle target, ← cursor.endLine)
  else .ok (.other, ← (cursor.skipWhile (!isLineEnd ·)).endLine)

/-- The name of an anchor or an alias, read at its sign. -/
def takeAnchorName (cursor : Cursor) : Except Fault (List Char × Cursor) :=
  let (name, cursor) := cursor.next.takeWhile isNameChar
  let c := cursor.peek
  if name.isEmpty then .error .malformed
  else if isBlankOrEnd c || ['?', ':', ',', ']', '}', '%', '@', '\x60'].contains c then
    .ok (name, cursor)
  else .error .malformed

/-- A tag, read at its exclamation mark. -/
def takeTag (cursor : Cursor) : Except Fault (RawTag × Cursor) := do
  let (tag, cursor) ←
    if cursor.peekAt 1 = '<' then do
      let (suffix, cursor) ← takeTagSuffix (cursor.skip 2)
      if cursor.peek = '>' then pure (RawTag.mk none suffix, cursor.next) else .error .malformed
    else if isBlankOrEnd (cursor.peekAt 1) then pure (RawTag.mk none ['!'], cursor.next)
    else do
      let word := cursor.next.rest.takeWhile (!isSpaceOrEnd ·)
      let (handle, cursor) ←
        if word.contains '!' then takeTagHandle cursor else pure (['!'], cursor.next)
      let (suffix, cursor) ← takeTagSuffix cursor
      pure (RawTag.mk (some handle) suffix, cursor)
  if isSpaceOrEnd cursor.peek then .ok (tag, cursor) else .error .malformed

end AgentFlow.Yaml
