import AgentFlow.Yaml.Token

/-!
# Finding tokens

A text is read token by token.  A key without a mark is known for a key only at the
colon after it, so the place of every token that may be one is remembered, and the key
mark is put there later.  A key without a mark lies on one line and is not longer than
1024 characters.
-/

namespace AgentFlow.Yaml

/-- A token that may turn out to be a key. -/
structure PossibleKey where
  position : Nat
  required : Bool
  index : Nat
  line : Nat
  column : Nat
  deriving Repr

/-- The work so far.  `tokens` holds the tokens, the last one first, and `count` tells how
many there are.  `keys` holds the possible key of every open flow collection, the
innermost first, and that of the block last; `indent` is one more than the column of
the innermost block, and `indents` those around it. -/
structure Scan where
  cursor : Cursor
  tokens : List Token
  count : Nat
  keys : List (Option PossibleKey)
  keyAllowed : Bool
  indent : Nat
  indents : List Nat
  deriving Repr

namespace Scan

/-- Before the first token. -/
def start (cs : List Char) : Scan := ⟨.start cs, [], 0, [none], true, 0, []⟩

/-- Whether a flow collection is open. -/
def inFlow (scan : Scan) : Bool := 1 < scan.keys.length

/-- Put a token in front of those from a place on. -/
def insert (scan : Scan) (position : Nat) (token : Token) : Scan :=
  let after := scan.count - position
  { scan with
    tokens := scan.tokens.take after ++ token :: scan.tokens.drop after
    count := scan.count + 1 }

/-- Add a token. -/
def push (scan : Scan) (token : Token) : Scan :=
  { scan with tokens := token :: scan.tokens, count := scan.count + 1 }

/-- Go on at another place. -/
def at_ (scan : Scan) (cursor : Cursor) : Scan := { scan with cursor := cursor }

/-- Go on after some characters. -/
def skip (scan : Scan) (count : Nat) : Scan := scan.at_ (scan.cursor.skip count)

/-- Allow or forbid that the next token is a key. -/
def allowKey (scan : Scan) (allowed : Bool) : Scan := { scan with keyAllowed := allowed }

/-- Replace the possible key of the innermost collection. -/
def setKey (scan : Scan) (key : Option PossibleKey) : Scan :=
  { scan with keys := key :: scan.keys.drop 1 }

/-- The possible key of the innermost collection. -/
def key? (scan : Scan) : Option PossibleKey := (scan.keys.head?).join

/-- Forget the possible key of the innermost collection.  A key that must be one is
missing its colon. -/
def dropKey (scan : Scan) : Except Fault Scan :=
  match scan.key? with
  | some key => if key.required then .error .malformed else .ok (scan.setKey none)
  | none => .ok scan

/-- Whether a possible key has become too long. -/
def isStale (scan : Scan) (key : PossibleKey) : Bool :=
  key.line != scan.cursor.line || scan.cursor.index - key.index > 1024

/-- Forget the keys that have become too long. -/
def dropStale (scan : Scan) : Except Fault Scan :=
  let stale := scan.keys.filterMap fun key => key.filter scan.isStale
  if stale.any PossibleKey.required then .error .malformed
  else .ok { scan with keys := scan.keys.map fun key => key.filter (!scan.isStale ·) }

/-- Remember that the next token may be a key. -/
def saveKey (scan : Scan) : Except Fault Scan :=
  if scan.keyAllowed then do
    let scan ← scan.dropKey
    let required := !scan.inFlow && scan.indent == scan.cursor.column + 1
    .ok (scan.setKey (some ⟨scan.count, required, scan.cursor.index, scan.cursor.line,
      scan.cursor.column⟩))
  else .ok scan

/-- Close the blocks that are indented further. -/
def unwind (scan : Scan) (indent : Nat) : Nat → Scan
  | 0 => scan
  | fuel + 1 =>
    if scan.indent > indent then
      match scan.indents with
      | outer :: indents =>
        unwind { scan.push .blockEnd with indent := outer, indents := indents } indent fuel
      | [] => scan
    else scan

/-- Close the blocks that are indented further, unless a flow collection is open. -/
def closeBlocks (scan : Scan) (indent : Nat) : Scan :=
  if scan.inFlow then scan else scan.unwind indent (scan.indents.length + 1)

/-- Start a block at a column, if it is indented further than the one around it. -/
def openBlock (scan : Scan) (column : Nat) (position : Nat) (start : Token) : Scan :=
  if scan.indent < column + 1 then
    { scan.insert position start with
      indents := scan.indent :: scan.indents
      indent := column + 1 }
  else scan

/-- Skip blanks, comments and line ends.  A key may start a line. -/
def skipSpace : Nat → Scan → Scan
  | 0, scan => scan
  | fuel + 1, scan =>
    let cursor := scan.cursor.skipSpaces
    let cursor := if cursor.peek = '#' then cursor.skipWhile (!isLineEnd ·) else cursor
    if isBreak cursor.peek then
      let scan := scan.at_ cursor.takeBreak.2
      skipSpace fuel (if scan.inFlow then scan else scan.allowKey true)
    else scan.at_ cursor

/-- A mark that starts or ends a document. -/
def documentMark (scan : Scan) (token : Token) : Except Fault Scan := do
  let scan ← (scan.closeBlocks 0).dropKey
  .ok (((scan.allowKey false).push token).skip 3)

/-- A directive. -/
def directive (scan : Scan) : Except Fault Scan := do
  let scan ← (scan.closeBlocks 0).dropKey
  let (directive, cursor) ← takeDirective scan.cursor
  .ok (((scan.allowKey false).push (.directive directive)).at_ cursor)

/-- The start of a flow collection. -/
def flowStart (scan : Scan) (token : Token) : Except Fault Scan := do
  let scan ← scan.saveKey
  let scan := { scan with keys := none :: scan.keys }
  .ok (((scan.allowKey true).push token).skip 1)

/-- The end of a flow collection. -/
def flowEnd (scan : Scan) (token : Token) : Except Fault Scan := do
  let scan ← scan.dropKey
  if scan.inFlow then
    let scan := { scan with keys := scan.keys.drop 1 }
    .ok (((scan.allowKey false).push token).skip 1)
  else .error .malformed

/-- A comma between the entries of a flow collection. -/
def flowEntry (scan : Scan) : Except Fault Scan := do
  let scan ← (scan.allowKey true).dropKey
  .ok ((scan.push .flowEntry).skip 1)

/-- A dash before an entry of a sequence. -/
def blockEntry (scan : Scan) : Except Fault Scan := do
  let scan ←
    if scan.inFlow then pure scan
    else if scan.keyAllowed then
      pure (scan.openBlock scan.cursor.column scan.count .blockSequenceStart)
    else .error .malformed
  let scan ← (scan.allowKey true).dropKey
  .ok ((scan.push .blockEntry).skip 1)

/-- A question mark before a key. -/
def keyMark (scan : Scan) : Except Fault Scan := do
  let scan ←
    if scan.inFlow then pure scan
    else if scan.keyAllowed then
      pure (scan.openBlock scan.cursor.column scan.count .blockMappingStart)
    else .error .malformed
  let scan ← (scan.allowKey (!scan.inFlow)).dropKey
  .ok ((scan.push .key).skip 1)

/-- A colon before a value.  The possible key before it is now known for a key. -/
def valueMark (scan : Scan) : Except Fault Scan := do
  let scan ←
    match scan.key? with
    | some key =>
      let scan := (scan.setKey none).insert key.position .key
      let scan :=
        if scan.inFlow then scan
        else scan.openBlock key.column key.position .blockMappingStart
      pure (scan.allowKey false)
    | none =>
      let scan ←
        if scan.inFlow then pure scan
        else if scan.keyAllowed then
          pure (scan.openBlock scan.cursor.column scan.count .blockMappingStart)
        else .error .malformed
      (scan.allowKey (!scan.inFlow)).dropKey
  .ok ((scan.push .value).skip 1)

/-- A token that may be a key, read by a reader of its own. -/
def keyToken {α : Type} (scan : Scan) (read : Cursor → Except Fault (α × Cursor))
    (token : α → Token) : Except Fault Scan := do
  let scan ← scan.saveKey
  let (answer, cursor) ← read scan.cursor
  .ok (((scan.allowKey false).push (token answer)).at_ cursor)

/-- A block scalar. -/
def blockScalar (scan : Scan) : Except Fault Scan := do
  let scan ← (scan.allowKey true).dropKey
  let (text, cursor) ← takeBlock scan.indent scan.cursor
  .ok ((scan.push (.scalar text false)).at_ cursor)

/-- A plain scalar. -/
def plainScalar (scan : Scan) : Except Fault Scan := do
  let scan ← scan.saveKey
  let (text, brokeLine, cursor) :=
    takePlain scan.inFlow scan.indent scan.cursor.bound [] false scan.cursor
  .ok (((scan.allowKey brokeLine).push (.scalar text true)).at_ cursor)

/-- The characters that start no plain scalar. -/
def isIndicator (c : Char) : Bool :=
  isBlankOrEnd c || [
    '-', '?', ':', ',', '[', ']', '{', '}', '#', '&', '*', '!', '|', '>', '\x27', '"', '%', '@',
    '\x60'].contains c

/-- Whether a plain scalar starts with a character. -/
def startsPlain (inFlow : Bool) (c after : Char) : Bool :=
  !isIndicator c ||
    (!isBlankOrEnd after && (c == '-' || (!inFlow && (c == '?' || c == ':'))))

/-- The end of the text. -/
def finish (scan : Scan) : Except Fault Scan :=
  (scan.closeBlocks 0).dropKey

/-- Read one token at the place after the blanks. -/
def token (scan : Scan) : Except Fault Scan :=
  let cursor := scan.cursor
  let c := cursor.peek
  let after := cursor.peekAt 1
  let marked := scan.inFlow || isBlankOrEnd after
  if c = '%' ∧ cursor.column = 0 then scan.directive
  else if cursor.column = 0 ∧ cursor.atMark '-' then scan.documentMark .documentStart
  else if cursor.column = 0 ∧ cursor.atMark '.' then scan.documentMark .documentEnd
  else if c = '[' then scan.flowStart .flowSequenceStart
  else if c = '{' then scan.flowStart .flowMappingStart
  else if c = ']' then scan.flowEnd .flowSequenceEnd
  else if c = '}' then scan.flowEnd .flowMappingEnd
  else if c = ',' then scan.flowEntry
  else if c = '-' ∧ isBlankOrEnd after then scan.blockEntry
  else if c = '?' ∧ marked then scan.keyMark
  else if c = ':' ∧ marked then scan.valueMark
  else if c = '*' then scan.keyToken takeAnchorName .alias
  else if c = '&' then scan.keyToken takeAnchorName .anchor
  else if c = '!' then scan.keyToken takeTag .tag
  else if (c = '|' ∨ c = '>') ∧ !scan.inFlow then scan.blockScalar
  else if c = '\x27' ∨ c = '"' then scan.keyToken takeQuoted (.scalar · false)
  else if startsPlain scan.inFlow c after then scan.plainScalar
  else .error .malformed

/-- The tokens that are known for what they are: those before the first possible key. -/
def settled (scan : Scan) : List Token :=
  let places := scan.keys.filterMap fun key => key.map PossibleKey.position
  (scan.tokens.drop (scan.count - places.foldl min scan.count)).reverse

/-- Read one token, or the end of the text. -/
def step (scan : Scan) : Except Fault (Scan × Bool) := do
  let scan ← (scan.skipSpace scan.cursor.bound).dropStale
  let scan := scan.closeBlocks (scan.cursor.column + 1)
  if scan.cursor.peek = endMark then return (← scan.finish, true) else return (← scan.token, false)

/-- The number of flow collections that may be open at once. -/
def maxFlow : Nat := 2000

/-- Read the tokens up to the end of the text, or up to a fault.  Before a fault stand the
tokens that are known when it is met. -/
def run : Nat → Scan → List Token × Option Fault
  | 0, scan => (scan.settled, some .malformed)
  | fuel + 1, scan =>
    if maxFlow < scan.keys.length then (scan.settled, some (.value .tooDeep))
    else
      match scan.dropStale with
      | .error fault => (scan.settled, some fault)
      | .ok scan =>
        match scan.step with
        | .error fault => (scan.settled, some fault)
        | .ok (scan, true) => (scan.tokens.reverse, none)
        | .ok (scan, false) => run fuel scan

end Scan

/-- A byte order mark at the start is no part of the text. -/
def withoutByteOrderMark (cs : List Char) : List Char :=
  match cs with
  | '\uFEFF' :: rest => rest
  | cs => cs

/-- The tokens of a text, and the fault that ends them, if there is one. -/
def tokensOf (cs : List Char) : List Token × Option Fault :=
  Scan.run (cs.length + 1) (Scan.start (withoutByteOrderMark cs))

end AgentFlow.Yaml
