import AgentFlow.Proofs.Agent.Description
import AgentFlow.Proofs.CommandLine.Action
import AgentFlow.Proofs.Console.Markup

/-!
# Listing agents

The list shows every temporary agent, whether or not its file can be read.  What can break it is
what is in a file that can be read: a head with a scalar that YAML recognizes and cannot build, or
a description that is too long a number.  The names of the files are printed without escaping, so
their markup counts too.
-/

namespace AgentFlow

open AgentFlow.Text

namespace CommandLine

open Console Number

/-! ## Rows -/

section Rows

variable {store : Store} {disk : Disk} {name : String}

end Rows

section List

variable {context : Context} {config : Config} {store : Store} {registry : Registry}
  {temporary : List String} {before after : Terminal} {recovered : Bool} {machine : Machine}
  {printed : List Item}

/-- What a list of agents is made from. -/
structure Opens (context : Context) (config : Config) (store : Store) (registry : Registry)
    (temporary : List String) (machine opened : Machine) : Prop where
  finds : config.store context.homes = .ok store
  recovers : ∃ recovered, store.recover machine = (.ok recovered, opened)
  loads : store.load opened.disk = .ok registry
  lists : store.listTemporary opened.disk = .ok temporary

end List

/-! ### A single temporary agent -/

end CommandLine

end AgentFlow
