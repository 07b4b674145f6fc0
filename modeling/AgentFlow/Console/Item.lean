import AgentFlow.Console.Markup
import AgentFlow.Error.Basic

/-!
# What is printed

A program prints texts, tables and panels.  All of their texts are marked up when they
are printed, except those that are printed as they are; an item holds what is shown.
-/

namespace AgentFlow.Console

/-- One thing that is printed, as it is shown. -/
inductive Item where
  | text (shown : String)
  | table (title : Option String) (columns : List String) (rows : List (List String))
  | panel (title body : String)
  | code (title source : String)
  deriving DecidableEq, Repr

/-- The fault of a program that prints a text with a fault in its markup. -/
def MarkupFault.toFault : MarkupFault → Fault
  | .unmatched => .markup
  | .handler => .markup
  | .number fault => .integer fault

/-- What is shown of marked-up text.  Tags that do not match are an error. -/
def render (s : String) : Except Error String :=
  (shown s).mapError fun fault => .unexpected fault.toFault

/-- A marked-up text. -/
def text (s : String) : Except Error Item := (render s).map .text

/-- A table with marked-up cells. -/
def table (title : Option String) (columns : List String) (rows : List (List String)) :
    Except Error Item := do
  let title ← title.mapM render
  let columns ← columns.mapM render
  let rows ← rows.mapM fun row => row.mapM render
  .ok (.table title columns rows)

/-- A panel with a marked-up title and body. -/
def panel (title body : String) : Except Error Item := do
  let title ← render title
  let body ← render body
  .ok (.panel title body)

/-- A panel that shows a text as it is under a marked-up title. -/
def code (title source : String) : Except Error Item := do
  let title ← render title
  .ok (.code title source)

end AgentFlow.Console
