import AgentFlow.CommandLine.Agents
import AgentFlow.Workflow.Program

/-!
# Commands for workflows

Checking a workflow, and expanding its macros.
-/

namespace AgentFlow.CommandLine

open AgentFlow.Console AgentFlow.Number

/-- Refuse an error of a workflow, its kind in front. -/
def refuseWorkflow {α : Type} (context : Context) (e : Error) : Action α := do
  let kind := (e.kind?.map ErrorKind.word).getD ""
  Action.say (styled "red" (kind ++ ":") ++ " " ++ escape (context.wording e))
  Action.exit Action.failureCode

/-- The source of a workflow.  There must be a file. -/
def readSource (path : Path) : Action String := do
  if ← Action.ask fun disk => Store.asks (disk.isFile path) then
    Action.ask fun disk => (disk.readText path).mapError .unexpected
  else do
    Action.say (styled "red" "Workflow file not found:" ++ " " ++ escape path.text)
    Action.exit Action.failureCode

/-- The columns of the table of a workflow. -/
def workflowColumns : List String := ["Line", "Agent", "Source", "Uses", "Captures", "Macro"]

/-- The macro that a step comes from, with its model. -/
def macroCell (step : Step) : Except Error String :=
  match step.macroName with
  | some name =>
    match (step.model.getD .null).displayed with
    | .ok model => .ok ("$" ++ name ++ " (" ++ model ++ ")")
    | .error fault => .error (.unexpected (.value fault))
  | none => .ok blankCell

/-- The row of a step. -/
def stepRow (step : Step) : Except Error (List String) := do
  let macroCell ← macroCell step
  .ok [integerText step.line, escape step.invocation.agentName, step.descriptor.source.word,
    orBlank (String.intercalate ", " step.uses), orBlank (step.invocation.output.getD ""),
    macroCell]

/-- How many statements a workflow has, and how many outputs. -/
def workflowSummary (program : Program) : String :=
  "\n" ++ styled "green" "OK" ++ " " ++ integerText program.steps.length ++ " invocation(s), " ++
    integerText program.outputs.length ++ " capture(s)."

/-- Compile a source with the agents of a configuration. -/
def compileWith (context : Context) (config : Config) (source : String) : Action Program := do
  let store ← openStore context config
  let resolver ← Action.ofExcept (resolverOf config store)
  Action.ofWork do
    let disk ← Work.disk
    Work.ofLogged (Program.compile (resolver.tryResolve disk) config.macroModel source)

/-- Compile a workflow and print its steps. -/
def checkWorkflow (context : Context) (config : Config) (path : Path) : Action Unit := do
  let source ← readSource path
  let program ← (compileWith context config source).handling isOwn (refuseWorkflow context)
  let rows ← Action.ofExcept (program.steps.mapM stepRow)
  Action.print (table (some ("Workflow: " ++ escape path.name)) workflowColumns rows)
  Action.say (workflowSummary program)

/-- Expand the macros of a source. -/
def expandWith (config : Config) (source : String) : Action Expanded := do
  let expanded ← Action.ofExcept (Expanded.ofSource source config.macroModel)
  Action.ofWork (Work.ofLogged ⟨expanded.records, .ok ()⟩)
  return expanded

/-- Print a workflow without its macros.  The text is printed as it is. -/
def expandWorkflow (context : Context) (config : Config) (path : Path) : Action Unit := do
  let source ← readSource path
  let expanded ← (expandWith config source).handling isOwn (refuseWorkflow context)
  Action.print (.ok (.text expanded.text))

end AgentFlow.CommandLine
