import AgentFlow.Proofs.CommandLine.Action
import AgentFlow.Proofs.Console.Markup
import AgentFlow.Proofs.Workflow.StepFaults

/-!
# Checking a workflow

The command compiles a file and shows the steps.  Names of agents and variables have no meaning in
marked-up text, so they are shown as they are.  The models of macros are any texts, and they are
printed without escaping: what is shown in the last column is what their markup says, and the
command fails if that markup has a fault.
-/

namespace AgentFlow

open AgentFlow.Text

namespace CommandLine

open Console Number

/-! ## Rows -/

/-- The workflow of a source with the agents of a configuration. -/
def compiled (config : Config) (store : Store) (disk : Disk) (source : String) :
    Except Error Program :=
  resolverOf config store >>= fun resolver =>
    (Program.compile (resolver.tryResolve disk) config.macroModel source).result

section Check

variable {context : Context} {config : Config} {store : Store} {source : String}
  {program : Program} {before after : Terminal} {recovered : Bool} {machine : Machine}
  {printed : List Item}

end Check

/-! ### A workflow of one macro -/

end CommandLine

end AgentFlow
