import AgentFlow.Agent.Descriptor
import AgentFlow.Log.Logged
import AgentFlow.Workflow.Expanded
import AgentFlow.Workflow.Placeholder

/-!
# Compiled workflows

A source is compiled into nodes, one for each statement: the macros are expanded, each
statement is read as an invocation, its agent is resolved, and its variables are
checked.  A statement may refer only to outputs of statements before it, and no output
is captured twice.  The first error ends the compilation.
-/

namespace AgentFlow

open AgentFlow.Number AgentFlow.Text

/-- A statement of a compiled workflow. -/
structure Step where
  invocation : Invocation
  descriptor : Descriptor
  uses : List String
  line : Nat
  model : Option Value
  macroName : Option String

/-- A compiled workflow. -/
structure Program where
  steps : List Step
  macros : MacroTable

/-- What gives the agent of a name, if there is one. -/
abbrev Lookup := String → Logged Error (Option Descriptor)

/-- The outputs captured so far, each with the line that it was first captured on. -/
abbrev Captures := List (String × Nat)

namespace Program

/-- The logger of compilation. -/
def logger : String := Log.loggerFor "workflow.compiler"

/-- The outputs in the order they are produced. -/
def outputs (program : Program) : List String :=
  program.steps.filterMap (·.invocation.output)

/-- The agent of a name, which must be found. -/
def findAgent (lookup : Lookup) (place : Place) (name : String) : Logged Error Descriptor := do
  match ← lookup name with
  | some descriptor => return descriptor
  | none => throw (.unknownAgent name place)

/-- All references must be captured before. -/
def checkUses (place : Place) (captures : Captures) (uses : List String) : Except Error Unit :=
  match uses.find? fun name => (captures.lookup name).isNone with
  | some name => .error (.undefinedVariable name place)
  | none => .ok ()

/-- Capture an output, which must not be captured before. -/
def capture (place : Place) (line : Nat) (captures : Captures) (output : Option String) :
    Except Error Captures :=
  match output with
  | none => .ok captures
  | some name =>
    match captures.lookup name with
    | some first => .error (.duplicateOutput name place first)
    | none => .ok (captures ++ [(name, line)])

/-- Compile one statement. -/
def compileStatement (lookup : Lookup) (captures : Captures) (statement : Statement) :
    Logged Error (Step × Captures) := do
  let place := statement.place
  let parsed := (Invocation.parse statement.text).mapError fun e =>
    match e with
    | .malformed fault _ _ => .malformed fault place statement.text
    | e => e
  let invocation ← Logged.ofExcept parsed
  let descriptor ← findAgent lookup place invocation.agentName
  let uses := Template.references invocation.instruction
  Logged.ofExcept (checkUses place captures uses)
  let captures ← Logged.ofExcept (capture place statement.line captures invocation.output)
  let step : Step := {
    invocation := invocation
    descriptor := descriptor
    uses := uses
    line := statement.line
    model := statement.expansion.map Expansion.model
    macroName := statement.expansion.map Expansion.macroName }
  return (step, captures)

/-- Compile statements in order. -/
def compileAll (lookup : Lookup) (captures : Captures) :
    List Statement → Logged Error (List Step)
  | [] => return []
  | statement :: rest => do
    let (step, captures) ← compileStatement lookup captures statement
    return step :: (← compileAll lookup captures rest)

/-- What is logged when a workflow is compiled. -/
def summary (program : Program) (expanded : Expanded) : String :=
  "Compiled " ++ integerText program.steps.length ++ " invocation(s), " ++
    integerText expanded.expansions.length ++ " from macros, " ++
    integerText program.outputs.length ++ " capture(s)"

/-- Compile a source. -/
def compile (lookup : Lookup) (default : Value) (source : String) : Logged Error Program := do
  let expanded ← Logged.ofExcept (Expanded.ofSource source default)
  (⟨expanded.records, .ok ()⟩ : Logged Error Unit)
  let steps ← compileAll lookup [] expanded.statements
  let program : Program := ⟨steps, expanded.macros⟩
  Logged.tell .info logger (program.summary expanded)
  return program

end Program

end AgentFlow
