import AgentFlow.Error.Fault
import AgentFlow.Error.Kind

/-!
# Errors

Every error is told by its cause.  The wording is in one place, `messageWith`: an
error that has a fault as its reason gives the text of the fault last, and the text
is chosen by the reader of the message.
-/

namespace AgentFlow

open AgentFlow.Number AgentFlow.Text

/-- Where in the source of a workflow an error lies. -/
inductive Place where
  | unplaced
  | line (line : Nat)
  | expanded (line : Nat) (macroName : String) (definitionLine : Int)
  deriving DecidableEq, Repr

namespace Place

/-- A place as messages name it; empty for no place. -/
def origin : Place → String
  | .unplaced => ""
  | .line number => "line " ++ integerText number
  | .expanded number macroName definitionLine =>
    "line " ++ integerText number ++ " (expanded from macro '$" ++ macroName ++
      "' defined on line " ++ integerText definitionLine ++ ")"

/-- What a message starts with. -/
def label : Place → String
  | .unplaced => ""
  | place => place.origin ++ ": "

end Place

/-- Why a text of a workflow is refused. -/
inductive SyntaxFault where
  | invocation (text : String)
  | emptyInstruction (agent text : String)
  | definition (text : String)
  | missingField (macroName field : String)
  | invalidBase (macroName base : String)
  | malformedFields (macroName body : String)
  | unknownField (macroName key : String)
  | repeatedField (macroName key : String)
  | expectedComma (macroName : String)
  | redefined (macroName : String) (firstLine : Int)
  | call (text : String)
  | emptyCall (macroName text : String)
  | unquotableCall (macroName : String)
  deriving DecidableEq, Repr

/-- Why a record cannot be made from given parts. -/
inductive FormFault where
  | agentName (name : String)
  | emptyInstruction (agent : String)
  | outputVariable (name : String)
  | trailingBackslash
  | variableName (name : String)
  deriving DecidableEq, Repr

/-- Why a text is no definition of an agent. -/
inductive DefinitionFault where
  | noOpening
  | noClosing
  | malformedHead (fault : Fault)
  | headNotATable (kind : Value.Kind)
  deriving DecidableEq, Repr

/-- What failed at a file of the registry. -/
inductive RegistryFault where
  | unreadable (fault : Fault)
  | malformed (fault : Fault)
  | notAnObject
  | malformedEntry (name : String) (fault : Option Fault)
  | unwritable (fault : Fault)
  | unreadableAgent (fault : Fault)
  | unreadableJournal (fault : Fault)
  | unwritableJournal (fault : Fault)
  | unmoved (source : Path) (fault : Fault)
  deriving DecidableEq, Repr

/-- An error, by its cause. -/
inductive Error where
  | malformed (fault : SyntaxFault) (place : Place) (text : String)
  | unknownAgent (name : String) (place : Place)
  | undefinedVariable (name : String) (place : Place)
  | duplicateOutput (name : String) (place : Place) (firstLine : Nat)
  | boundTwice (name : String)
  | undefinedMacro (name : String) (place : Place) (available : List String)
  | circularMacro (name : String) (place : Place) (chain : List String)
  | definition (fault : DefinitionFault) (path : Path)
  | noDefinition (path : Path)
  | registry (fault : RegistryFault) (path : Path)
  | config (fault : Fault) (path : Path)
  | form (fault : FormFault)
  | stated (kind : ErrorKind) (name text path : Option String) (message : String)
  | refused (message : String)
  | unexpected (fault : Fault)
  deriving DecidableEq, Repr

/-- The text of a syntax fault. -/
def SyntaxFault.message : SyntaxFault → String
  | .invocation text => "Invalid agent invocation syntax: " ++ text
  | .emptyInstruction agent text => "Empty instruction for agent '" ++ agent ++ "': " ++ text
  | .definition text => "Invalid macro definition syntax: " ++ text
  | .missingField macroName field =>
    "Macro '$" ++ macroName ++ "' missing required field: " ++ field
  | .invalidBase macroName base =>
    "Macro '$" ++ macroName ++ "' has an invalid base agent: " ++ quoted base
  | .malformedFields macroName body =>
    "Malformed field list in macro '$" ++ macroName ++ "': \x7b" ++ body ++ "\x7d"
  | .unknownField macroName key => "Unknown field '" ++ key ++ "' in macro '$" ++ macroName ++ "'"
  | .repeatedField macroName key => "Field '" ++ key ++ "' repeated in macro '$" ++ macroName ++ "'"
  | .expectedComma macroName => "Expected ',' between fields in macro '$" ++ macroName ++ "'"
  | .redefined macroName firstLine =>
    "macro '$" ++ macroName ++ "' is already defined on line " ++ integerText firstLine
  | .call text => "Invalid macro invocation syntax: " ++ text
  | .emptyCall macroName text => "Empty instruction for macro '$" ++ macroName ++ "': " ++ text
  | .unquotableCall macroName =>
    "cannot expand macro '$" ++ macroName ++ "': Text ending with a backslash cannot be quoted"

/-- The text of a fault of form. -/
def FormFault.message : FormFault → String
  | .agentName name => "Invalid agent name: " ++ quoted name
  | .emptyInstruction agent => "Invocation of '" ++ agent ++ "' has an empty instruction"
  | .outputVariable name => "Invalid output variable: " ++ quoted name
  | .trailingBackslash => "Text ending with a backslash cannot be quoted"
  | .variableName name => "Invalid variable name: " ++ quoted name

/-- The text of a fault of a definition. -/
def DefinitionFault.message (explain : Fault → String) (path : Path) : DefinitionFault → String
  | .noOpening => "Agent file missing YAML frontmatter (no opening '---'): " ++ path.text
  | .noClosing => "Agent file missing closing '---' for frontmatter: " ++ path.text
  | .malformedHead fault => "Invalid YAML frontmatter in " ++ path.text ++ ": " ++ explain fault
  | .headNotATable kind =>
    "YAML frontmatter must be a mapping, got " ++ kind.word ++ ": " ++ path.text

/-- The text of a fault of the registry. -/
def RegistryFault.message (explain : Fault → String) (path : Path) : RegistryFault → String
  | .unreadable fault => "Failed to read agent registry " ++ path.text ++ ": " ++ explain fault
  | .malformed fault => "Agent registry " ++ path.text ++ " is not valid JSON: " ++ explain fault
  | .notAnObject => "Agent registry " ++ path.text ++ " must be a JSON object"
  | .malformedEntry name none => "Malformed registry entry '" ++ name ++ "' in " ++ path.text
  | .malformedEntry name (some fault) =>
    "Malformed registry entry '" ++ name ++ "' in " ++ path.text ++ ": " ++ explain fault
  | .unwritable fault => "Failed to write agent registry " ++ path.text ++ ": " ++ explain fault
  | .unreadableAgent fault => "Failed to read temp agent " ++ path.text ++ ": " ++ explain fault
  | .unreadableJournal fault =>
    "Unreadable promotion journal " ++ path.text ++ ": " ++ explain fault
  | .unwritableJournal fault =>
    "Failed to write promotion journal " ++ path.text ++ ": " ++ explain fault
  | .unmoved source fault =>
    "Failed to move " ++ source.text ++ " to " ++ path.text ++ ": " ++ explain fault

/-- The macros that a message lists, in order, each with its sign. -/
def listedMacros (separator : String) (names : List String) : String :=
  String.intercalate separator (names.map ("$" ++ ·))

namespace Error

/-- The text of an error.  `explain` words the fault that is the reason of an error of the
library; a fault that travels alone has its own text. -/
def messageWith (explain : Fault → String) : Error → String
  | .malformed fault place _ => place.label ++ fault.message
  | .unknownAgent name place =>
    place.label ++ "Unknown agent: " ++ name ++
      ". Agent not found in built-in, defined, or temp agents."
  | .undefinedVariable name .unplaced => "Variable not found: " ++ name
  | .undefinedVariable name place =>
    place.label ++ "Variable not found: " ++ name ++ " (no earlier invocation captures it)"
  | .duplicateOutput name place firstLine =>
    place.label ++ "Output variable already bound: " ++ name ++
      " (first captured on line " ++ integerText firstLine ++ ")"
  | .boundTwice name => "Output variable already bound: " ++ name
  | .undefinedMacro name place available =>
    let listed := if available.isEmpty then "none" else listedMacros ", " available
    place.label ++ "Undefined macro '$" ++ name ++ "'. Available macros: " ++ listed
  | .circularMacro name place chain =>
    place.label ++ "Macro '$" ++ name ++ "' references itself: " ++ listedMacros " -> " chain
  | .definition fault path => fault.message explain path
  | .noDefinition path => "Agent definition not found: " ++ path.text
  | .registry fault path => fault.message explain path
  | .config fault path => "Cannot read config file " ++ path.text ++ ": " ++ explain fault
  | .form fault => fault.message
  | .stated _ _ _ _ message => message
  | .refused message => message
  | .unexpected fault => fault.describe

/-- The text of an error, its reason described. -/
def message (e : Error) : String := e.messageWith Fault.describe

/-- The kind of an error, if it is one of the kinds of the library. -/
def kind? : Error → Option ErrorKind
  | .malformed _ _ _ => some .malformed
  | .unknownAgent _ _ => some .unknownAgent
  | .undefinedVariable _ _ => some .undefinedVariable
  | .duplicateOutput _ _ _ => some .duplicateOutput
  | .boundTwice _ => some .duplicateOutput
  | .undefinedMacro _ _ _ => some .undefinedMacro
  | .circularMacro _ _ _ => some .circularMacro
  | .definition _ _ => some .definition
  | .registry _ _ => some .registryFile
  | .config _ _ => some .config
  | .stated kind _ _ _ _ => some kind
  | .noDefinition _ => none
  | .form _ => none
  | .refused _ => none
  | .unexpected _ => none

/-- The agent, variable or macro that an error names. -/
def name? : Error → Option String
  | .unknownAgent name _ => some name
  | .undefinedVariable name _ => some name
  | .duplicateOutput name _ _ => some name
  | .boundTwice name => some name
  | .undefinedMacro name _ _ => some name
  | .circularMacro name _ _ => some name
  | .stated _ name _ _ _ => name
  | _ => none

/-- The text of the workflow that an error refuses. -/
def text? : Error → Option String
  | .malformed _ _ text => some text
  | .stated _ _ text _ _ => text
  | _ => none

/-- The file of the registry that an error is about. -/
def path? : Error → Option String
  | .registry _ path => some path.text
  | .stated _ _ _ path _ => path
  | _ => none

/-- The text of a named error that is given no message. -/
def defaultMessage (kind : ErrorKind) (name : String) : String :=
  match kind with
  | .unknownAgent => (Error.unknownAgent name .unplaced).message
  | .undefinedVariable => (Error.undefinedVariable name .unplaced).message
  | .duplicateOutput => (Error.boundTwice name).message
  | .undefinedMacro => "Undefined macro '$" ++ name ++ "'"
  | .circularMacro => "Macro '$" ++ name ++ "' references itself"
  | _ => ""

/-- A named error with a message; an empty message or none stands for the default. -/
def ofName (kind : ErrorKind) (name : String) (message : Option String) : Error :=
  match message with
  | some text =>
    .stated kind (some name) none none (if text.isEmpty then defaultMessage kind name else text)
  | none => .stated kind (some name) none none (defaultMessage kind name)

/-- The error at a place of the source. -/
def placedAt (place : Place) : Error → Error
  | .malformed fault _ text => .malformed fault place text
  | .unknownAgent name _ => .unknownAgent name place
  | .undefinedMacro name _ available => .undefinedMacro name place available
  | .circularMacro name _ chain => .circularMacro name place chain
  | e => e

theorem kind?_placedAt (place : Place) (e : Error) : (e.placedAt place).kind? = e.kind? := by
  cases e <;> rfl

theorem name?_placedAt (place : Place) (e : Error) : (e.placedAt place).name? = e.name? := by
  cases e <;> rfl

end Error

end AgentFlow
