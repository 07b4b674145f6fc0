import AgentFlow.Error.Basic
import AgentFlow.Text.Blank
import AgentFlow.Workflow.CallForm

/-!
# Invocations

One call of an agent, written `agent:"instruction"` or `agent:"instruction":output`.
The record carries the rules that its parts obey, so that every invocation has a
written form unless its instruction ends with a backslash.
-/

namespace AgentFlow

open AgentFlow.Text

/-- One call of an agent. -/
structure Invocation where
  agentName : String
  instruction : String
  output : Option String
  agentName_isIdentifier : isIdentifier agentName = true
  instruction_ne_empty : instruction ≠ ""
  output_isIdentifier : ∀ name, output = some name → isIdentifier name = true

instance : DecidableEq Invocation := fun x y =>
  if same : x.agentName = y.agentName ∧ x.instruction = y.instruction ∧ x.output = y.output then
    isTrue (by
      cases x
      cases y
      simp_all)
  else
    isFalse (fun equal => same (by simp [equal]))

namespace Invocation

/-- The invocation with these parts, if they obey the rules. -/
def make? (agentName instruction : String) (output : Option String) :
    Except FormFault Invocation :=
  if agentValid : isIdentifier agentName = true then
    if empty : instruction = "" then .error (.emptyInstruction agentName)
    else
      match output with
      | none => .ok ⟨agentName, instruction, none, agentValid, empty, by simp⟩
      | some name =>
        if outputValid : isIdentifier name = true then
          .ok ⟨agentName, instruction, some name, agentValid, empty, by simp [outputValid]⟩
        else .error (.outputVariable name)
  else .error (.agentName agentName)

/-- Read one invocation.  Blanks around it are ignored. -/
def parse (line : String) : Except Error Invocation :=
  let text := trimmed line
  match CallForm.read? text.toList with
  | none => .error (.malformed (.invocation text) .unplaced text)
  | some form =>
    let agent := String.ofList form.name
    let instruction := unescapeQuotes form.body
    if instruction.isEmpty then
      .error (.malformed (.emptyInstruction agent text) .unplaced text)
    else
      (make? agent (String.ofList instruction) (form.output.map String.ofList)).mapError .form

/-- What follows the closing quote. -/
def outputSuffix : Option String → List Char
  | none => []
  | some name => ':' :: name.toList

/-- The body of a quoted text. -/
def escape (text : String) : Except FormFault String :=
  if endsWithBackslash text.toList then .error .trailingBackslash
  else .ok (String.ofList (escapeQuotes text.toList))

/-- The value of a body. -/
def unescape (text : String) : String :=
  String.ofList (unescapeQuotes text.toList)

/-- The written form of an invocation. -/
def serialize (invocation : Invocation) : Except FormFault String := do
  let body ← escape invocation.instruction
  .ok (String.ofList (invocation.agentName.toList ++ ':' :: '"' :: body.toList ++
    '"' :: outputSuffix invocation.output))

end Invocation

end AgentFlow
