import AgentFlow.Text.Identifier
import AgentFlow.Text.QuotedBody

/-!
# Call forms

The form that invocations and macro calls share: `name:"body"` and
`name:"body":output`.
-/

namespace AgentFlow

open AgentFlow.Text

/-- The parts that invocations and macro calls are written with: a name, the body of
a quoted text, and an output name. -/
structure CallForm where
  name : List Char
  body : List Char
  output : Option (List Char)
  deriving DecidableEq, Repr

/-- What may follow the closing quote: nothing, or a colon and an identifier. -/
def takeOutput? : List Char → Option (Option (List Char))
  | [] => some none
  | ':' :: output => if spellsIdentifier output then some (some output) else none
  | _ => none

/-- Read `name:"body"` or `name:"body":output`. -/
def CallForm.read? (cs : List Char) : Option CallForm :=
  let (name, rest) := takeIdentifier cs
  if name.isEmpty then none
  else
    match rest with
    | ':' :: '"' :: rest =>
      match takeBody rest with
      | (body, _ :: after) => (takeOutput? after).map (CallForm.mk name body ·)
      | (_, []) => none
    | _ => none

end AgentFlow
