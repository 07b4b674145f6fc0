import AgentFlow.CommandLine.Action

/-!
# Commands for agents

Listing, resolving, showing, promoting and deleting agents.
-/

namespace AgentFlow.CommandLine

open AgentFlow.Console AgentFlow.Number

/-- What stands in a cell that has nothing to show. -/
def blankCell : String := "-"

/-- A text, or the sign for nothing. -/
def orBlank (s : String) : String := if s.isEmpty then blankCell else s

/-- The style of a source. -/
def sourceStyle : Source → String
  | .builtin => "cyan"
  | .defined => "green"
  | .temporary => "yellow"

/-- The word for a source in its style. -/
def styledSource (source : Source) : String := styled (sourceStyle source) source.word

/-- A value as a cell: a text is marked up, and nothing else but null can be shown. -/
def cellOf (value : Value) : Except Error String :=
  match value with
  | .text s => .ok s
  | .null => .ok ""
  | value => .error (.unexpected (.value (.wrongKind .cell value.kind)))

/-- The row of a built-in agent. -/
def builtinRow (name : Value) : Except Error (List String) :=
  (cellOf name).map fun cell => [cell, styledSource .builtin, blankCell, blankCell]

/-- The row of a defined agent. -/
def definedRow (name : String) (entry : Entry) : List String :=
  [name, styledSource .defined, orBlank (escape entry.description), integerText entry.usageCount]

/-- The description of a temporary agent for a cell.  A file that cannot be read has a
description that says so. -/
def temporaryDescription (store : Store) (disk : Disk) (name : String) : Except Error String :=
  match disk.readText (store.temporaryPath name) with
  | .error _ => .ok (styled "dim" "(unreadable)")
  | .ok text =>
    match Definition.describe text with
    | .ok description => .ok (orBlank (escape description))
    | .error fault => .error (.unexpected (.value fault))

/-- The row of a temporary agent. -/
def temporaryRow (store : Store) (disk : Disk) (name : String) : Except Error (List String) :=
  (temporaryDescription store disk name).map fun description =>
    [name, styledSource .temporary, description, blankCell]

/-- The entries of a table, sorted by name. -/
def sortedEntries (registry : Registry) : List (String × Entry) :=
  registry.mergeSort fun first second => first.1 ≤ second.1

/-- The columns of the table of agents. -/
def agentColumns : List String := ["Name", "Source", "Description", "Uses"]

/-- The rows of all agents: the built-in ones, the defined ones and the temporary ones. -/
def agentRows (config : Config) (store : Store) (registry : Registry) (temporary : List String)
    (disk : Disk) : Except Error (List (List String)) := do
  let builtins ← (← config.builtinNames).mapM builtinRow
  let defined := (sortedEntries registry).map fun (name, entry) => definedRow name entry
  let temporary ← temporary.mapM (temporaryRow store disk)
  .ok (builtins ++ defined ++ temporary)

/-- How many agents are defined and temporary. -/
def agentSummary (registry : Registry) (temporary : List String) : String :=
  "\n" ++ styled "dim" (integerText registry.length ++ " defined, " ++
    integerText temporary.length ++ " temporary agent(s).")

/-- Print all agents. -/
def listAgents (context : Context) (config : Config) : Action Unit := do
  let opened : Action (Store × Registry × List String) := do
    let store ← openStore context config
    let registry ← Action.ask store.load
    let temporary ← Action.ask store.listTemporary
    return (store, registry, temporary)
  let (store, registry, temporary) ← opened.handling isOwn fun e =>
    Action.refuse (context.wording e)
  let rows ← Action.ask (agentRows config store registry temporary)
  Action.print (table (some "Agents") agentColumns rows)
  Action.say (agentSummary registry temporary)

/-- The agent of a name, with the store it was looked up in. -/
def findAgent (context : Context) (config : Config) (name : String) :
    Action (Store × Descriptor) := do
  let store ← openStore context config
  let resolver ← Action.ofExcept (resolverOf config store)
  let descriptor ← Action.ofWork do
    Work.ofLogged (resolver.resolve (← Work.disk) name)
  return (store, descriptor)

/-- Where an agent lies. -/
def location (descriptor : Descriptor) : String :=
  match descriptor.path with
  | some path => path.text
  | none => "(in-process)"

/-- Print which tier claims a name. -/
def resolveAgent (context : Context) (config : Config) (name : String) : Action Unit := do
  let (_, descriptor) ← (findAgent context config name).handling isOwn fun e =>
    Action.refuse (context.wording e)
  Action.say (styled "bold" (escape name) ++ " -> " ++ styledSource descriptor.source ++ " " ++
    escape (location descriptor))

/-- The width that labels are filled up to. -/
def labelWidth : Nat := 15

/-- A line with a label. -/
def labelled (label value : String) : String :=
  let fill := String.ofList (List.replicate (labelWidth - (label.length + 1)) ' ')
  styled "bold" (label ++ ":") ++ fill ++ value

/-- What the registry tells about an agent. -/
def entryLines (entry : Entry) : List String :=
  [labelled "Created" entry.created, labelled "Usage count" (integerText entry.usageCount)]

/-- What is told about an agent. -/
def agentLines (definition : Definition) (source : Source) (path : Path) (entry : Option Entry) :
    List String :=
  let model := definition.model.filter (!·.isEmpty)
  let tools := String.intercalate ", " definition.tools
  [labelled "Name" (escape definition.name), labelled "Source" source.word,
    labelled "Description" (orBlank (escape definition.description))] ++
    (model.map fun model => labelled "Model" (escape model)).toList ++
    (if definition.tools.isEmpty then [] else [labelled "Tools" (escape tools)]) ++
    (entry.map entryLines).getD [] ++
    [labelled "File" (escape path.text)]

/-- The number of characters that a preview shows. -/
def previewLength : Nat := 500

/-- The beginning of a text, with a note if it is not all of it. -/
def preview (text : String) : String :=
  if text.length > previewLength then
    String.ofList (text.toList.take previewLength) ++ "\n\n... (truncated)"
  else text

/-- Print what the definition of an agent says. -/
def printDefinition (name : String) (definition : Definition) (source : Source) (path : Path)
    (entry : Option Entry) : Action Unit := do
  let lines := agentLines definition source path entry
  Action.print (panel ("Agent: " ++ escape name) (String.intercalate "\n" lines))
  if definition.instructions.isEmpty then
    Action.say ("\n" ++ styled "dim" "No instructions body defined.")
  else
    Action.say ""
    Action.print (code "Instructions (preview)" (preview definition.instructions))

/-- Print what is known about an agent. -/
def showAgent (context : Context) (config : Config) (name : String) : Action Unit := do
  let described : Action (Descriptor × Option (Path × Definition × Option Entry)) := do
    let (store, descriptor) ← findAgent context config name
    match descriptor.path with
    | none => return (descriptor, none)
    | some path =>
      let definition ← Action.ask (Definition.read · path)
      let entry ←
        match descriptor.source with
        | .defined => Action.ask (store.get · name)
        | _ => pure none
      return (descriptor, some (path, definition, entry))
  let (descriptor, known) ← described.handling isOwn fun e => Action.refuse (context.wording e)
  match known with
  | none => Action.say (styled "bold" (escape name) ++ " is a built-in agent (no definition file).")
  | some (path, definition, entry) => printDefinition name definition descriptor.source path entry

/-- Whether promotion tells an error to its user: its own ones, and values that are out of
their format. -/
def isTold (e : Error) : Bool :=
  isOwn e ||
    match e with
    | .form _ => true
    | .unexpected fault => fault.isBadValue
    | _ => false

/-- Promote a temporary agent. -/
def promoteAgent (context : Context) (config : Config) (name : String) (newName : Option String) :
    Action Unit := do
  let promoted : Action Bool := do
    let store ← openStore context config
    Action.ofWork (store.promote context.today name newName)
  let isDone ← promoted.handling isTold fun e => Action.refuse (context.wording e)
  let target := (newName.filter (!·.isEmpty)).getD name
  if isDone then
    Action.say (styled "green" "Promoted" ++ " " ++ escape name ++ " -> defined agent " ++
      styled "bold" (escape target))
  else
    Action.refuse ("Could not promote '" ++ name ++ "': temp agent not found or '" ++ target ++
      "' is already defined.")

/-- Delete a temporary agent. -/
def deleteAgent (context : Context) (config : Config) (name : String) : Action Unit := do
  let deleted : Action Bool := do
    let store ← openStore context config
    Action.ofWork (store.deleteTemporary name)
  let isDone ← deleted.handling isOwn fun e => Action.refuse (context.wording e)
  if isDone then Action.say (styled "green" "Deleted" ++ " temp agent " ++ escape name)
  else Action.refuse ("Temp agent not found: " ++ name)

end AgentFlow.CommandLine
