import AgentFlow.Value.Fault

/-!
# Built-in agents

The agents that need no definition file.  A configuration may name others in their
place, and more of them.
-/

namespace AgentFlow

/-- The names of the built-in agents. -/
def defaultBuiltins : List String :=
  ["general-purpose", "Explore", "Plan", "code-reviewer", "expert-code-implementer",
    "implementation-architect", "code-optimizer", "react-native-component-reviewer",
    "jwt-keycloak-security-auditor", "statusline-setup"]

/-- What a configuration says about built-in agents: a list in place of the usual one,
unless it is null, and a list of more. -/
structure BuiltinSettings where
  builtins : Value
  extraBuiltins : Value

namespace BuiltinSettings

/-- The members of a list of names. -/
def membersOf (value : Value) : Except ValueFault (List Value) :=
  match value.members? with
  | some members => .ok members
  | none => .error (.wrongKind .members value.kind)

/-- The values without repetitions; each must be one that can be a key. -/
def distinct (seen : List Value) : List Value → Except ValueFault (List Value)
  | [] => .ok seen.reverse
  | value :: rest =>
    if value.isKey then
      if seen.any (·.sameKey value) then distinct seen rest else distinct (value :: seen) rest
    else .error (.wrongKind .key value.kind)

/-- The names of the built-in agents, without repetitions. -/
def names (settings : BuiltinSettings) : Except ValueFault (List Value) := do
  let base ←
    match settings.builtins with
    | .null => pure (defaultBuiltins.map .text)
    | value => membersOf value
  let extra ← membersOf settings.extraBuiltins
  distinct [] (base ++ extra)

end BuiltinSettings

end AgentFlow
