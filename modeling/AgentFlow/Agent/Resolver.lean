import AgentFlow.Agent.Builtin
import AgentFlow.Agent.Store
import AgentFlow.Log.Logged

/-!
# Resolving agents

The name of an agent is looked up tier by tier, and the first tier that claims it wins:
the built-in agents, then the defined ones, then the temporary ones.  So no temporary
agent ever stands in for a defined one.
-/

namespace AgentFlow

open AgentFlow.Text

/-- A tier of agents. -/
inductive Tier where
  | builtin (names : List Value)
  | defined (directory : Path)
  | temporary (directory : Path)

namespace Tier

/-- Where the agents of a tier come from. -/
def source : Tier → Source
  | .builtin _ => .builtin
  | .defined _ => .defined
  | .temporary _ => .temporary

/-- The agent of a name, if its definition lies in a directory. -/
def inDirectory (disk : Disk) (source : Source) (directory : Path) (name : String) :
    Except Error (Option Descriptor) := do
  let path := definitionPath directory name
  if ← Store.asks (disk.isFile path) then .ok (some ⟨name, source, some path⟩) else .ok none

/-- The agent of a name, if the tier claims it. -/
def claim (disk : Disk) (tier : Tier) (name : String) : Except Error (Option Descriptor) :=
  match tier with
  | .builtin names =>
    if names.any (·.text? == some name) then .ok (some ⟨name, .builtin, none⟩) else .ok none
  | .defined directory => inDirectory disk .defined directory name
  | .temporary directory => inDirectory disk .temporary directory name

end Tier

/-- Tiers in the order they are asked. -/
abbrev Resolver := List Tier

namespace Resolver

/-- The logger of resolution. -/
def logger : String := Log.loggerFor "agents.resolver"

/-- The three tiers of a store. -/
def ofStore (store : Store) (builtins : List Value) : Resolver :=
  [.builtin builtins, .defined store.agentsDir, .temporary store.temporaryDir]

/-- The agent of a name by the first tier that claims it. -/
def firstClaim (disk : Disk) (name : String) : Resolver → Except Error (Option Descriptor)
  | [] => .ok none
  | tier :: tiers => do
    match ← tier.claim disk name with
    | some descriptor => .ok (some descriptor)
    | none => firstClaim disk name tiers

/-- The agent of a name, if some tier claims it.  Only an identifier is a name. -/
def tryResolve (resolver : Resolver) (disk : Disk) (name : String) :
    Logged Error (Option Descriptor) :=
  if isIdentifier name then do
    match ← Logged.ofExcept (resolver.firstClaim disk name) with
    | some descriptor =>
      Logged.tell .debug logger
        ("Resolved agent '" ++ name ++ "' -> " ++ descriptor.source.word)
      return some descriptor
    | none => return none
  else return none

/-- The agent of a name, which some tier must claim. -/
def resolve (resolver : Resolver) (disk : Disk) (name : String) : Logged Error Descriptor := do
  match ← resolver.tryResolve disk name with
  | some descriptor => return descriptor
  | none => throw (.unknownAgent name .unplaced)

/-- Whether some tier claims a name. -/
def knows (resolver : Resolver) (disk : Disk) (name : String) : Logged Error Bool := do
  return (← resolver.tryResolve disk name).isSome

end Resolver

end AgentFlow
