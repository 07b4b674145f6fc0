import AgentFlow.Agent.Store
import AgentFlow.Workflow.Program
import AgentFlow.Workflow.Variables

/-!
# Runs

A compiled workflow is run step by step.  Each instruction is completed with the
outputs captured so far and handed to a dispatcher; its output is captured, and the use
of a defined agent is counted.  The first error ends the run; what was done before it
stays done.
-/

namespace AgentFlow

open AgentFlow.Number

/-- What runs invocations.  It may change its own state, and gives an output or an
error; `elapsed` is the time that its last answer took, as records tell it. -/
structure Dispatcher (σ : Type) where
  dispatch : σ → Step → String → Except Error String × σ
  elapsed : σ → String

/-- What became of one step. -/
structure Outcome where
  step : Step
  instruction : String
  output : String

/-- The state of a run: the variables, the dispatcher, and the machine that the registry
is kept on. -/
structure RunState (σ : Type) where
  bindings : Variables
  dispatcher : σ
  machine : Machine

/-- A part of a run. -/
abbrev Running (σ α : Type) := ExceptT (Halt Error) (StateM (RunState σ)) α

namespace Run

variable {σ : Type}

/-- The logger of runs. -/
def logger : String := Log.loggerFor "workflow.runner"

/-- Work on files as a part of a run. -/
def work {α : Type} (part : Work Error α) : Running σ α := do
  let state ← get
  let (result, machine) := part state.machine
  set { state with machine := machine }
  match result with
  | .ok a => return a
  | .error halt => throw halt

/-- An answer, or an error that ends the run. -/
def ofExcept {α : Type} (result : Except Error α) : Running σ α :=
  match result with
  | .ok a => pure a
  | .error e => throw (.failed e)

/-- Hand an instruction to the dispatcher. -/
def dispatch (dispatcher : Dispatcher σ) (step : Step) (instruction : String) :
    Running σ String := do
  let state ← get
  let (result, after) := dispatcher.dispatch state.dispatcher step instruction
  set { state with dispatcher := after }
  ofExcept result

/-- Bind the output of a step, if it is captured. -/
def captureOutput (step : Step) (output : String) : Running σ Unit := do
  match step.invocation.output with
  | none => return ()
  | some name =>
    let state ← get
    let bindings ← ofExcept (state.bindings.bind name output)
    set { state with bindings := bindings }

/-- Count the use of a defined agent, if there is a registry. -/
def countUse (registry : Option Store) (step : Step) : Running σ Unit :=
  match registry, step.descriptor.source with
  | some store, .defined => work (store.incrementUsage step.invocation.agentName)
  | _, _ => return ()

/-- What is logged when a step is finished. -/
def finished (step : Step) (elapsed : String) : String :=
  "Agent '" ++ step.invocation.agentName ++ "' (" ++ step.descriptor.source.word ++
    ") finished line " ++ integerText step.line ++ " (" ++ elapsed ++ ")"

/-- Run one step. -/
def runStep (dispatcher : Dispatcher σ) (registry : Option Store) (step : Step) :
    Running σ Outcome := do
  let values := (← get).bindings
  let instruction ← ofExcept (Template.interpolate values.get? step.invocation.instruction)
  let output ← dispatch dispatcher step instruction
  captureOutput step output
  countUse registry step
  let elapsed := dispatcher.elapsed (← get).dispatcher
  work (Work.tell ⟨.info, logger, finished step elapsed⟩)
  return ⟨step, instruction, output⟩

/-- Run steps in order. -/
def runSteps (dispatcher : Dispatcher σ) (registry : Option Store) :
    List Step → Running σ (List Outcome)
  | [] => return []
  | step :: rest => do
    let outcome ← runStep dispatcher registry step
    return outcome :: (← runSteps dispatcher registry rest)

/-- Run a compiled workflow. -/
def run (dispatcher : Dispatcher σ) (registry : Option Store) (program : Program) :
    Running σ (List Outcome) := do
  let outcomes ← runSteps dispatcher registry program.steps
  work (Work.tell ⟨.info, logger,
    "Workflow run finished: " ++ integerText outcomes.length ++ " node(s)"⟩)
  return outcomes

end Run

end AgentFlow
