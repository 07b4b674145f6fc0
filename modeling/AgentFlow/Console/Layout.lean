import AgentFlow.Console.Item

/-!
# Layout

Items as lines of text: a table has its columns lined up, and a panel has its title above
its body.
-/

namespace AgentFlow.Console

/-- A text filled up with spaces to a width. -/
def padded (width : Nat) (s : String) : String :=
  s ++ String.ofList (List.replicate (width - s.length) ' ')

/-- The width of every column: that of its longest cell. -/
def columnWidths : List (List String) → List Nat
  | [] => []
  | row :: rows =>
    let below := columnWidths rows
    let count := max row.length below.length
    (List.range count).map fun i =>
      max ((row[i]?.map String.length).getD 0) (below[i]?.getD 0)

/-- A row with its cells filled up to the widths of their columns. -/
def rowLine (widths : List Nat) (row : List String) : String :=
  String.intercalate "  " (List.zipWith padded widths row)

/-- A line below a title or a header. -/
def ruleBelow (s : String) : String := String.ofList (List.replicate s.length '-')

/-- A title with a line below it. -/
def titleLines (title : String) : List String := [title, ruleBelow title]

/-- The lines of an item. -/
def Item.lines : Item → List String
  | .text shown => [shown]
  | .table title columns rows =>
    let widths := columnWidths (columns :: rows)
    let header := rowLine widths columns
    title.toList ++ [header, ruleBelow header] ++ rows.map (rowLine widths)
  | .panel title body => titleLines title ++ [body]
  | .code title source => titleLines title ++ [source]

end AgentFlow.Console
