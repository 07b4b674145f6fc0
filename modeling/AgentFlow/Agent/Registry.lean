import AgentFlow.Error.Basic
import AgentFlow.Files.Change
import AgentFlow.Json.Document
import AgentFlow.Text.Blank
import AgentFlow.Value.Display

/-!
# The registry of agents

A table of the defined agents, kept in one JSON file: what each agent's file is, its
description, the day it was registered, and how often it was used.  Reading is lenient
about the types of the fields; writing gives every field the type it should have.
-/

namespace AgentFlow

open AgentFlow.Number AgentFlow.Text

/-- What the registry knows about an agent. -/
structure Entry where
  agentName : String
  file : String
  description : String
  created : String
  usageCount : Int
  deriving DecidableEq, Repr

/-- The table of defined agents, in the order of registration. -/
abbrev Registry := List (String × Entry)

namespace Entry

/-- The text of a field, or another text if it is not given. -/
def textOr (default : String) (value : Value) : String :=
  if value.isGiven then value.displayText else default

/-- The number that a field holds, or spells. -/
def countOf (value : Value) : Except ValueFault Int :=
  if value.isGiven then
    match value with
    | .bool _ => .ok 1
    | .int n => .ok n
    | .text s => (readInteger 10 s).mapError .integer
    | .float x =>
      match x.truncate? with
      | some n => .ok n
      | none => .error (if x = .nan then .nanCount else .infiniteCount)
    | value => .error (.wrongKind .count value.kind)
  else .ok 0

/-- The entry of an agent from the fields of an object. -/
def ofFields (name : String) (fields : List (Value × Value)) : Except ValueFault Entry := do
  let count ← countOf (Value.field "usageCount" fields)
  .ok {
    agentName := name
    file := textOr (name ++ ".md") (Value.field "file" fields)
    description := textOr "" (Value.field "description" fields)
    created := textOr "" (Value.field "created" fields)
    usageCount := count }

/-- The entry of an agent from a value, which should be an object. -/
def ofValue (name : String) (value : Value) : Except ValueFault Entry :=
  match value with
  | .table fields => ofFields name fields
  | value => .error (.wrongKind .entry value.kind)

/-- The object that an entry is written as. -/
def toDocument (entry : Entry) : Json.Document :=
  .object [("file", .text entry.file), ("description", .text entry.description),
    ("created", .text entry.created), ("usageCount", .int entry.usageCount)]

end Entry

namespace Registry

/-- The entry of a name. -/
def get? (registry : Registry) (name : String) : Option Entry := registry.lookup name

/-- Whether a name is registered. -/
def contains (registry : Registry) (name : String) : Bool := (registry.get? name).isSome

/-- Put an entry under a name.  A registered name keeps its place. -/
def insert (name : String) (entry : Entry) : Registry → Registry
  | [] => [(name, entry)]
  | (first, old) :: rest =>
    if first = name then (name, entry) :: rest else (first, old) :: insert name entry rest

/-- The names, sorted. -/
def sortedNames (registry : Registry) : List String :=
  (registry.map Prod.fst).mergeSort (· ≤ ·)

/-- The object that a table is written as. -/
def toDocument (registry : Registry) : Json.Document :=
  .object (registry.map fun (name, entry) => (name, entry.toDocument))

/-- The content of the file that a table is kept in. -/
def fileText (registry : Registry) : String := registry.toDocument.fileText

/-- One entry of the object in a registry file. -/
def readEntry (path : Path) (name : String) (value : Value) : Except Error Entry :=
  match value with
  | .table fields =>
    (Entry.ofFields name fields).mapError fun fault =>
      match fault with
      | .infiniteCount => .unexpected (.value fault)
      | fault => .registry (.malformedEntry name (some (.value fault))) path
  | _ => .error (.registry (.malformedEntry name none) path)

/-- The entries of the object in a registry file. -/
def readEntries (path : Path) : List (Value × Value) → Except Error Registry
  | [] => .ok []
  | (key, value) :: rest => do
    let name := key.displayText
    let entry ← readEntry path name value
    let others ← readEntries path rest
    .ok ((name, entry) :: others)

/-- The table that the text of a registry file holds.  A blank text is an empty table. -/
def ofText (path : Path) (text : String) : Except Error Registry :=
  if (trim text.toList).isEmpty then .ok []
  else
    match Json.read text with
    | .error .malformed => .error (.registry (.malformed .json) path)
    | .error fault => .error (.unexpected (.ofJson fault))
    | .ok (.table entries) => readEntries path entries
    | .ok _ => .error (.registry .notAnObject path)

/-- Read the table of a registry file.  Without a file it is empty. -/
def read (disk : Disk) (path : Path) : Except Error Registry := do
  if ← (disk.pathExists path).mapError fun fault => .unexpected (.file fault) then
    match disk.readText path with
    | .ok text => ofText path text
    | .error (.file fault) => .error (.registry (.unreadable (.file fault)) path)
    | .error fault => .error (.unexpected fault)
  else .ok []

end Registry

end AgentFlow
