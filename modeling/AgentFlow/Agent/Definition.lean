import AgentFlow.Files.Change
import AgentFlow.Error.Basic
import AgentFlow.Text.Blank
import AgentFlow.Value.Display
import AgentFlow.Yaml.Reader

/-!
# Definitions of agents

The text of a definition is a YAML head between lines of three dashes, and the
instructions after it.  The description of an agent can also be found in a text that
has no readable head: it is what follows the first `description:` that anything
follows.
-/

namespace AgentFlow

open AgentFlow.Text

/-- What is known about an agent from its definition. -/
structure Definition where
  name : String
  description : String
  model : Option String
  tools : List String
  instructions : String
  path : Path

namespace Definition

/-- Whether a text starts with the mark of a head. -/
def startsWithDashes : List Char → Bool
  | '-' :: '-' :: '-' :: _ => true
  | _ => false

/-- Split a text at the first line but the first one that starts with the mark: what
stands before its line feed, and what follows the mark. -/
def splitAtClosing? : List Char → Option (List Char × List Char)
  | [] => none
  | c :: rest =>
    if c = '\n' ∧ startsWithDashes rest then some ([], rest.drop 3)
    else (splitAtClosing? rest).map fun (head, body) => (c :: head, body)

/-- The text after its first line. -/
def afterFirstLine? (cs : List Char) : Option (List Char) :=
  match cs.dropWhile (· != '\n') with
  | [] => none
  | _ :: rest => some rest

/-- Split a text into its head and its body. -/
def splitHead (cs : List Char) : Except DefinitionFault (List Char × List Char) :=
  let stripped := cs.dropWhile (· == '\n')
  if startsWithDashes stripped then
    match afterFirstLine? stripped with
    | none => .error .noClosing
    | some rest =>
      if startsWithDashes rest then .ok ([], rest.drop 3)
      else
        match splitAtClosing? rest with
        | none => .error .noClosing
        | some parts => .ok parts
  else .error .noOpening

/-- Why a head is not read: it is none, or one of its values cannot be. -/
inductive HeadFault where
  | definition (fault : DefinitionFault)
  | value (fault : ValueFault)
  deriving DecidableEq, Repr

/-- Read a head.  It holds a table, or nothing. -/
def readHead (head : List Char) : Except HeadFault Yaml.Document :=
  match Yaml.read (String.ofList head) with
  | .error .malformed => .error (.definition (.malformedHead .yaml))
  | .error (.value fault) => .error (.value fault)
  | .ok document =>
    match document.value.kind with
    | .null => .ok document
    | .table => .ok document
    | kind => .error (.definition (.headNotATable kind))

/-- The value of a field of a head, null if it is not there. -/
def field (key : String) (head : Yaml.Document) : Value :=
  ((head.field? key).map head.valueOf).getD .null

/-- The text of a field, none if it is not given. -/
def textField? (key : String) (head : Yaml.Document) : Except ValueFault (Option String) :=
  let value := field key head
  if value.isGiven then value.displayed.map some else .ok none

/-- The pieces of a text between commas. -/
def splitCommas (cs : List Char) : List (List Char) := cs.splitOn ','

/-- The texts of the items of a list, or the pieces of a text between commas. -/
def listField (key : String) (head : Yaml.Document) : Except ValueFault (List String) :=
  match (head.field? key).bind head.itemsOf? with
  | some items => items.mapM Value.displayed
  | none =>
    match field key head with
    | .null => .ok []
    | value => do
      let pieces := (splitCommas (← value.displayed).toList).map trim
      .ok ((pieces.filter (!·.isEmpty)).map String.ofList)

/-- The definition that a text holds. -/
def ofText (path : Path) (text : String) : Except HeadFault Definition := do
  let (headText, body) ← (splitHead text.toList).mapError .definition
  let head ← readHead headText
  let textField? (key : String) : Except HeadFault (Option String) :=
    (textField? key head).mapError .value
  let name ← textField? "name"
  let description ← textField? "description"
  let model ← textField? "model"
  let tools ← (listField "tools" head).mapError .value
  .ok {
    name := name.getD path.stem
    description := description.getD ""
    model := model
    tools := tools
    instructions := String.ofList (trim body)
    path := path }

/-- The error of a fault in the head of the definition at a path. -/
def HeadFault.error (path : Path) : HeadFault → Error
  | .definition fault => .definition fault path
  | .value fault => .unexpected (.value fault)

/-- Read the definition at a path. -/
def read (disk : Disk) (path : Path) : Except Error Definition := do
  if ← (disk.pathExists path).mapError fun fault => .unexpected (.file fault) then
    let text ← (disk.readText path).mapError .unexpected
    (ofText path text).mapError (·.error path)
  else .error (.noDefinition path)

/-- What a line of a description starts with. -/
def descriptionMark : List Char := "description:".toList

/-- What follows the first mark of a description that anything but blanks follows, up to
the end of the line that it stands on. -/
def findDescription : List Char → List Char
  | [] => []
  | c :: rest =>
    if descriptionMark.isPrefixOf (c :: rest) then
      match trimStart ((c :: rest).drop descriptionMark.length) with
      | [] => []
      | found => trim (found.takeWhile (· != '\n'))
    else findDescription rest

/-- The best description that a text gives: that of its head, else one that is found in
the text, else none. -/
def describe (text : String) : Except ValueFault String := do
  let given ←
    match (splitHead text.toList).mapError HeadFault.definition >>= (readHead ·.1) with
    | .ok head => textField? "description" head
    | .error (.definition _) => pure none
    | .error (.value fault) => .error fault
  match given with
  | some description => .ok (String.ofList (trim description.toList))
  | none => .ok (String.ofList (findDescription text.toList))

end Definition

end AgentFlow
