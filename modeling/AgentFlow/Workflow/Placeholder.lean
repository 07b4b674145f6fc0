import AgentFlow.Text.Identifier

/-!
# Placeholders

A name in braces inside of an instruction stands for the value of a variable.  A text
is read from the left as placeholders and other characters; what a placeholder is
replaced by is never read again.
-/

namespace AgentFlow.Template

open AgentFlow.Text

/-- A piece of a text with placeholders. -/
inductive Piece where
  | literal (c : Char)
  | placeholder (name : List Char)
  deriving DecidableEq, Repr

/-- The source of a piece. -/
def Piece.chars : Piece → List Char
  | .literal c => [c]
  | .placeholder name => '{' :: name ++ ['}']

/-- A name and a closing brace, and what follows them. -/
def takeName? (cs : List Char) : Option (List Char × List Char) :=
  match takeIdentifier cs with
  | (name, '}' :: rest) => if name.isEmpty then none else some (name, rest)
  | _ => none

theorem takeName?_length {cs name rest : List Char} (taken : takeName? cs = some (name, rest)) :
    rest.length < cs.length := by
  have whole := congrArg List.length (takeIdentifier_append cs)
  unfold takeName? at taken
  split at taken
  · rename_i first after split
    split at taken
    · cases taken
    · simp only [Option.some.injEq, Prod.mk.injEq] at taken
      obtain ⟨_, rfl⟩ := taken
      rw [split] at whole
      simp only [List.length_append, List.length_cons] at whole
      omega
  · cases taken

/-- The pieces of a text. -/
def pieces (cs : List Char) : List Piece :=
  match cs with
  | [] => []
  | '{' :: rest =>
    match taken : takeName? rest with
    | some (name, after) =>
      have := takeName?_length taken
      .placeholder name :: pieces after
    | none => .literal '{' :: pieces rest
  | c :: rest => .literal c :: pieces rest
termination_by cs.length
decreasing_by all_goals simp only [List.length_cons]; omega

/-- The name of a piece that is a placeholder. -/
def Piece.name? : Piece → Option String
  | .literal _ => none
  | .placeholder name => some (String.ofList name)

/-- The names that a text refers to, in the order of their first placeholders. -/
def references (text : String) : List String :=
  ((pieces text.toList).filterMap Piece.name?).eraseDups

end AgentFlow.Template
