import AgentFlow.Error.Basic
import AgentFlow.Text.Identifier
import AgentFlow.Workflow.Placeholder

/-!
# Variables

The outputs captured in one run, in the order of their capture.  A name is bound at
most once and never changes its value.
-/

namespace AgentFlow

open AgentFlow.Text

/-- Names with their values, in the order of binding. -/
structure Variables where
  entries : List (String × String)
  distinct : (entries.map Prod.fst).Nodup
  deriving DecidableEq

namespace Variables

/-- No variables. -/
def empty : Variables := ⟨[], List.nodup_nil⟩

/-- The bound names, in the order of binding. -/
def names (bindings : Variables) : List String :=
  bindings.entries.map Prod.fst

/-- The value of a name. -/
def get? (bindings : Variables) (name : String) : Option String :=
  bindings.entries.lookup name

/-- Whether a name is bound. -/
def contains (bindings : Variables) (name : String) : Bool :=
  bindings.names.contains name

theorem nodup_append_new {names : List String} {name : String}
    (distinct : names.Nodup) (isNew : name ∉ names) : (names ++ [name]).Nodup := by
  rw [List.nodup_append]
  refine ⟨distinct, by simp, ?_⟩
  intro old oldMember other otherMember same
  rw [List.mem_singleton] at otherMember
  subst otherMember
  subst same
  exact isNew oldMember

/-- Bind a new name. -/
def bind (bindings : Variables) (name value : String) : Except Error Variables :=
  if isIdentifier name then
    if isNew : name ∉ bindings.entries.map Prod.fst then
      .ok ⟨bindings.entries ++ [(name, value)], by
        rw [List.map_append]
        exact nodup_append_new bindings.distinct isNew⟩
    else .error (.boundTwice name)
  else .error (.form (.variableName name))

/-- The value of a name, which must be bound. -/
def get (bindings : Variables) (name : String) : Except Error String :=
  match bindings.get? name with
  | some value => .ok value
  | none => .error (.undefinedVariable name .unplaced)

/-- The text that describes the variables by their names. -/
def description (bindings : Variables) : String :=
  "VariableStore([" ++ String.intercalate ", " (bindings.names.map quoted) ++ "])"

end Variables

namespace Template

/-- What a piece is replaced by. -/
def Piece.substitute (values : String → Option String) : Piece → List Char
  | .literal c => [c]
  | .placeholder name => ((values (String.ofList name)).getD "").toList

/-- Replace every placeholder by the value of its name.  Nothing is replaced unless
all names have values. -/
def interpolate (values : String → Option String) (text : String) : Except Error String :=
  match (references text).find? fun name => (values name).isNone with
  | some name => .error (.undefinedVariable name .unplaced)
  | none => .ok (String.ofList ((pieces text.toList).flatMap (Piece.substitute values)))

end Template

end AgentFlow
