/-!
# Kinds of errors

The errors that users of the library tell apart, and the more general kinds that
each of them belongs to.
-/

namespace AgentFlow

/-- A kind of error. -/
inductive ErrorKind where
  | any
  | named
  | workflow
  | malformed
  | agent
  | unknownAgent
  | definition
  | variable
  | undefinedVariable
  | duplicateOutput
  | macroUse
  | undefinedMacro
  | circularMacro
  | registry
  | registryFile
  | config
  deriving DecidableEq, Repr

namespace ErrorKind

/-- The word for a kind. -/
def word : ErrorKind → String
  | .any => "OrchestraError"
  | .named => "_NamedError"
  | .workflow => "WorkflowError"
  | .malformed => "WorkflowSyntaxError"
  | .agent => "AgentError"
  | .unknownAgent => "UnknownAgentError"
  | .definition => "AgentDefinitionError"
  | .variable => "VariableError"
  | .undefinedVariable => "UndefinedVariableError"
  | .duplicateOutput => "DuplicateOutputVariableError"
  | .macroUse => "MacroError"
  | .undefinedMacro => "UndefinedMacroError"
  | .circularMacro => "CircularMacroReferenceError"
  | .registry => "RegistryError"
  | .registryFile => "RegistryIOError"
  | .config => "ConfigError"

/-- All kinds. -/
def all : List ErrorKind :=
  [.any, .named, .workflow, .malformed, .agent, .unknownAgent, .definition, .variable,
    .undefinedVariable, .duplicateOutput, .macroUse, .undefinedMacro, .circularMacro,
    .registry, .registryFile, .config]

/-- The kind that a word names. -/
def ofWord? (s : String) : Option ErrorKind :=
  all.find? (·.word = s)

/-- The more specific kind that a kind belongs to first. -/
def family : ErrorKind → Option ErrorKind
  | .malformed => some .workflow
  | .unknownAgent => some .agent
  | .definition => some .agent
  | .undefinedVariable => some .variable
  | .duplicateOutput => some .variable
  | .undefinedMacro => some .macroUse
  | .circularMacro => some .macroUse
  | .registryFile => some .registry
  | _ => none

/-- Whether an error of the kind names an agent, a variable or a macro. -/
def isNamed : ErrorKind → Bool
  | .named => true
  | .unknownAgent => true
  | .undefinedVariable => true
  | .duplicateOutput => true
  | .undefinedMacro => true
  | .circularMacro => true
  | _ => false

/-- The kind itself and all that it belongs to, the most general one last. -/
def lineage (kind : ErrorKind) : List ErrorKind :=
  let above := if kind.isNamed ∧ kind ≠ .named then [ErrorKind.named] else []
  let root := if kind = .any then [] else [ErrorKind.any]
  kind :: kind.family.toList ++ above ++ root

end ErrorKind

end AgentFlow
