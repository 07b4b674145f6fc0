import AgentFlow.Files.Path

/-!
# Agents

Where an agent comes from, and what resolving its name gives.
-/

namespace AgentFlow

/-- Where an agent comes from. -/
inductive Source where
  | builtin
  | defined
  | temporary
  deriving DecidableEq, Repr

/-- The word for a source. -/
def Source.word : Source → String
  | .builtin => "builtin"
  | .defined => "defined"
  | .temporary => "temp"

/-- A resolved agent.  A built-in one has no definition file. -/
structure Descriptor where
  name : String
  source : Source
  path : Option Path
  deriving DecidableEq, Repr

/-- The suffix of definition files. -/
def definitionSuffix : String := ".md"

/-- The path of the definition of an agent in a directory. -/
def definitionPath (directory : Path) (name : String) : Path :=
  directory.child (name ++ definitionSuffix)

end AgentFlow
