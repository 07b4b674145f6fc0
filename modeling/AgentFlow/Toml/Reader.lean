import AgentFlow.Toml.Scalar
import AgentFlow.Toml.Text

/-!
# Reading TOML

A TOML 1.0 document as a table.  A table is defined once: by its header, by dotted
keys of one section, or inline, and what is defined inline is closed for good.
-/

namespace AgentFlow.Toml

open AgentFlow.Number

/-- The entries of a table under construction. -/
abbrev Entries := List (Value × Value)

/-- Whether the table holds a key. -/
def hasKey (key : String) (entries : Entries) : Bool :=
  (Value.lookup? key entries).isSome

/-- Put a value under a key. -/
def insert (key : String) (value : Value) (entries : Entries) : Entries :=
  Value.insertEntry (.text key) value entries

/-- Change the table at a path, making the tables on the way to it.  With
`throughLists` the way leads through the last table of an array of tables. -/
def changeAt? (throughLists : Bool) (change : Entries → Option Entries) :
    List String → Entries → Option Entries
  | [], entries => change entries
  | key :: path, entries =>
    match Value.lookup? key entries with
    | none =>
      (changeAt? throughLists change path []).map fun inner => insert key (.table inner) entries
    | some (.table inner) =>
      (changeAt? throughLists change path inner).map fun inner => insert key (.table inner) entries
    | some (.list items) =>
      if throughLists then
        match items.getLast? with
        | some (.table inner) =>
          (changeAt? throughLists change path inner).map fun inner =>
            insert key (.list (items.dropLast ++ [.table inner])) entries
        | _ => none
      else none
    | some _ => none

/-- Add a key that must be new. -/
def addNew? (key : String) (value : Value) (entries : Entries) : Option Entries :=
  if hasKey key entries then none else some (insert key value entries)

/-- Add an empty table to the array of tables under a key. -/
def appendTable? (key : String) (entries : Entries) : Option Entries :=
  match Value.lookup? key entries with
  | none => some (insert key (.list [.table []]) entries)
  | some (.list items) => some (insert key (.list (items ++ [.table []])) entries)
  | some _ => none

/-- Why a path is closed: it was defined as a table, or it lies in an inline value. -/
inductive Closure where
  | defined
  | inlined
  deriving DecidableEq, Repr

/-- The closed paths.  What lies below an inlined path is closed with it. -/
abbrev Closures := List (List String × Closure)

/-- Whether a path was defined as a table. -/
def isDefined (path : List String) (closures : Closures) : Bool :=
  closures.contains (path, .defined)

/-- Whether a path is an inline value or lies in one. -/
def isInlined (path : List String) (closures : Closures) : Bool :=
  !path.isEmpty &&
    closures.any fun (closed, closure) => closure = .inlined && closed.isPrefixOf path

/-- An inline table or array closes its path. -/
def isContainer : Value → Bool
  | .table _ => true
  | .list _ => true
  | _ => false

/-- Skip blanks, line ends and comments between the items of an array. -/
def skipArraySpace : Nat → List Char → Option (List Char)
  | 0, _ => none
  | fuel + 1, cs =>
    match cs.dropWhile isSpaceOrNewline with
    | '#' :: rest =>
      match skipComment? ('#' :: rest) with
      | some rest => skipArraySpace fuel rest
      | none => none
    | rest => some rest

/-- The answer of a reader whose only failure is a malformed text. -/
def orMalformed {α : Type} : Option α → Except Fault α
  | some answer => .ok answer
  | none => .error .malformed

/-- How much room there is for values that stand in each other. -/
def maxRoom : Nat := 980

/-- The room that an array takes. -/
def arrayRoom : Nat := 2

/-- The room that an inline table takes. -/
def tableRoom : Nat := 3

/-- What is left of the room when something takes a part of it. -/
def takeRoom (taken room : Nat) : Except Fault Nat :=
  if room < taken then .error .tooDeep else .ok (room - taken)

mutual

/-- Read a value, with a bound on the depth of the calls and the room for what stands in
the value. -/
def readValue : Nat → Nat → List Char → Except Fault (Value × List Char)
  | 0, _, _ => .error .malformed
  | fuel + 1, room, cs =>
    match readString? cs with
    | some none => .error .malformed
    | some (some (text, rest)) => .ok (.text (String.ofList text), rest)
    | none =>
      match cs with
      | '[' :: rest => do
        let room ← takeRoom arrayRoom room
        match ← orMalformed (skipArraySpace (rest.length + 1) rest) with
        | ']' :: rest => .ok (.list [], rest)
        | rest =>
          let (items, rest) ← readItems fuel room rest
          .ok (.list items, rest)
      | '{' :: rest => do
        let room ← takeRoom tableRoom room
        match skipSpace rest with
        | '}' :: rest => .ok (.table [], rest)
        | rest =>
          let (entries, rest) ← readInline fuel room [] [] rest
          .ok (.table entries, rest)
      | cs => readScalar cs

/-- Read the items of an array up to its closing bracket. -/
def readItems : Nat → Nat → List Char → Except Fault (List Value × List Char)
  | 0, _, _ => .error .malformed
  | fuel + 1, room, cs => do
    let (item, rest) ← readValue fuel room cs
    match ← orMalformed (skipArraySpace (rest.length + 1) rest) with
    | ']' :: rest => .ok ([item], rest)
    | ',' :: rest =>
      match ← orMalformed (skipArraySpace (rest.length + 1) rest) with
      | ']' :: rest => .ok ([item], rest)
      | rest =>
        let (items, rest) ← readItems fuel room rest
        .ok (item :: items, rest)
    | _ => .error .malformed

/-- Read the entries of an inline table up to its closing brace. -/
def readInline : Nat → Nat → Entries → Closures → List Char →
    Except Fault (Entries × List Char)
  | 0, _, _, _, _ => .error .malformed
  | fuel + 1, room, entries, closures, cs => do
    let (path, value, rest) ← readAssignment fuel room cs
    if isInlined path closures then .error .malformed
    let entries ← orMalformed
      (changeAt? false (addNew? (path.getLastD "") value) path.dropLast entries)
    match skipSpace rest with
    | '}' :: rest => .ok (entries, rest)
    | ',' :: rest =>
      let closures := if isContainer value then (path, .inlined) :: closures else closures
      readInline fuel room entries closures (skipSpace rest)
    | _ => .error .malformed

/-- Read a key, an equals sign and a value. -/
def readAssignment : Nat → Nat → List Char → Except Fault (List String × Value × List Char)
  | 0, _, _ => .error .malformed
  | fuel + 1, room, cs => do
    let (path, rest) ← orMalformed (readKey? (cs.length + 1) cs)
    match rest with
    | '=' :: rest =>
      let (value, rest) ← readValue fuel room (skipSpace rest)
      .ok (path, value, rest)
    | _ => .error .malformed

end

/-- A document while it is read: its table, the section that assignments go to,
the closed paths, and the paths that close at the next header. -/
structure Draft where
  entries : Entries
  section_ : List String
  closures : Closures
  pending : List (List String)

namespace Draft

/-- The draft before the first line. -/
def empty : Draft := ⟨[], [], [], []⟩

/-- The tables that dotted keys defined are closed when the section ends. -/
def closePending (draft : Draft) : Draft :=
  { draft with
    closures := draft.closures ++ draft.pending.map (·, .defined)
    pending := [] }

/-- The header of a table. -/
def openTable (draft : Draft) (path : List String) : Except Fault Draft := do
  if isDefined path draft.closures || isInlined path draft.closures then .error .malformed
  let entries ← orMalformed (changeAt? true some path draft.entries)
  .ok { draft with entries, section_ := path, closures := (path, .defined) :: draft.closures }

/-- The header of a table in an array of tables. -/
def appendTable (draft : Draft) (path : List String) : Except Fault Draft := do
  if isInlined path draft.closures then .error .malformed
  let entries ← orMalformed
    (changeAt? true (appendTable? (path.getLastD "")) path.dropLast draft.entries)
  let open_ := draft.closures.filter fun (closed, _) => !path.isPrefixOf closed
  .ok { draft with entries, section_ := path, closures := (path, .defined) :: open_ }

/-- An assignment in the section. -/
def assign (draft : Draft) (path : List String) (value : Value) : Except Fault Draft := do
  let inner := (List.range (path.length - 1)).map fun i => draft.section_ ++ path.take (i + 1)
  if inner.any (isDefined · draft.closures) then .error .malformed
  let parent := draft.section_ ++ path.dropLast
  if isInlined parent draft.closures then .error .malformed
  let entries ← orMalformed
    (changeAt? true (addNew? (path.getLastD "") value) parent draft.entries)
  let closures :=
    if isContainer value then (draft.section_ ++ path, .inlined) :: draft.closures
    else draft.closures
  .ok { draft with entries, closures, pending := draft.pending ++ inner }

end Draft

/-- Read one statement: a header or an assignment. -/
def readStatement (fuel : Nat) (draft : Draft) (cs : List Char) :
    Except Fault (Draft × List Char) :=
  match cs with
  | '[' :: '[' :: rest => do
    let (path, rest) ← orMalformed (readKey? (rest.length + 1) (skipSpace rest))
    let draft ← draft.closePending.appendTable path
    match rest with
    | ']' :: ']' :: rest => .ok (draft, skipSpace rest)
    | _ => .error .malformed
  | '[' :: rest => do
    let (path, rest) ← orMalformed (readKey? (rest.length + 1) (skipSpace rest))
    let draft ← draft.closePending.openTable path
    match rest with
    | ']' :: rest => .ok (draft, skipSpace rest)
    | _ => .error .malformed
  | cs => do
    let (path, value, rest) ← readAssignment fuel maxRoom cs
    let draft ← draft.assign path value
    .ok (draft, skipSpace rest)

/-- Read the statements line by line. -/
def readLines : Nat → Draft → List Char → Except Fault Draft
  | 0, _, _ => .error .malformed
  | fuel + 1, draft, cs =>
    match skipSpace cs with
    | [] => .ok draft
    | '\n' :: rest => readLines fuel draft rest
    | cs => do
      let (draft, rest) ←
        if cs.head? = some '#' then .ok (draft, cs)
        else readStatement (2 * cs.length + 4) draft cs
      match ← orMalformed (skipComment? rest) with
      | [] => .ok draft
      | '\n' :: rest => readLines fuel draft rest
      | _ => .error .malformed

/-- A carriage return and a line feed end a line like a line feed alone. -/
def joinReturns : List Char → List Char
  | '\r' :: '\n' :: rest => '\n' :: joinReturns rest
  | c :: rest => c :: joinReturns rest
  | [] => []

/-- Read a whole document. -/
def read (text : String) : Except Fault Entries := do
  let cs := joinReturns text.toList
  let draft ← readLines (cs.length + 1) Draft.empty cs
  .ok draft.entries

end AgentFlow.Toml
