import AgentFlow.Error.Basic
import AgentFlow.Text.Blank
import AgentFlow.Text.Lines

/-!
# Statements

A statement normally takes one line.  It goes on over the following lines while a
quoted text or a block in braces is open.  Blank lines and comment lines between
statements are skipped; inside of a statement they belong to it.
-/

namespace AgentFlow

open AgentFlow.Text

/-- Where an expanded macro call came from. -/
structure Expansion where
  macroName : String
  baseAgent : String
  output : Option String
  model : Value
  callText : String
  line : Nat
  definitionLine : Int

/-- One statement, with the line that it starts on. -/
structure Statement where
  text : String
  line : Nat
  expansion : Option Expansion

namespace Statement

/-- Where the statement stands, seen through a macro that it was expanded from. -/
def place (statement : Statement) : Place :=
  match statement.expansion with
  | none => .line statement.line
  | some expansion => .expanded statement.line expansion.macroName expansion.definitionLine

/-- What is open at the end of a line: a quoted text, and a number of braces. -/
structure ScanState where
  inQuote : Bool
  depth : Nat
  deriving DecidableEq, Repr

namespace ScanState

/-- Nothing is open. -/
def closed : ScanState := ⟨false, 0⟩

/-- Whether nothing is open. -/
def isClosed (state : ScanState) : Bool := state == closed

/-- The state after one character.  Inside of a quoted text only a quote counts, and
only if no backslash stands right before it on the same line. -/
def step (state : ScanState) (escaped : Bool) (c : Char) : ScanState :=
  if state.inQuote then
    if c = '"' ∧ escaped = false then ⟨false, state.depth⟩ else state
  else if c = '"' then ⟨true, state.depth⟩
  else if c = '{' then ⟨false, state.depth + 1⟩
  else if c = '}' then ⟨false, state.depth - 1⟩
  else state

/-- The state after the characters of a line. -/
def scan (state : ScanState) (escaped : Bool) : List Char → ScanState
  | [] => state
  | c :: rest => scan (state.step escaped c) (c == '\\') rest

end ScanState

/-- A line that no statement starts on. -/
def isSkipped (line : List Char) : Bool :=
  match trim line with
  | [] => true
  | c :: _ => c == '#'

/-- The lines up to the first one after which nothing is open, and the lines after it. -/
def takeRun (state : ScanState) : List (List Char) → List (List Char) × List (List Char)
  | [] => ([], [])
  | line :: lines =>
    let after := state.scan false line
    if after.isClosed then ([line], lines)
    else
      let (run, rest) := takeRun after lines
      (line :: run, rest)

theorem takeRun_append (state : ScanState) (lines : List (List Char)) :
    (takeRun state lines).1 ++ (takeRun state lines).2 = lines := by
  fun_induction takeRun state lines <;> simp_all

theorem takeRun_rest_length (state : ScanState) (line : List Char) (lines : List (List Char)) :
    (takeRun state (line :: lines)).2.length < (line :: lines).length := by
  have lengths := congrArg List.length (takeRun_append state (line :: lines))
  rw [List.length_append] at lengths
  have nonempty : 0 < (takeRun state (line :: lines)).1.length := by
    simp only [takeRun]
    split <;> simp
  omega

/-- The text of a run of lines. -/
def runText (run : List (List Char)) : String :=
  String.ofList (trim (joinLines run))

/-- The statements of lines, the first of which has the given number. -/
def ofLines (number : Nat) : List (List Char) → List Statement
  | [] => []
  | line :: lines =>
    if isSkipped line then ofLines (number + 1) lines
    else
      let run := takeRun .closed (line :: lines)
      ⟨runText run.1, number, none⟩ :: ofLines (number + run.1.length) run.2
termination_by lines => lines.length
decreasing_by
  · simp
  · exact takeRun_rest_length .closed line lines

/-- The statements of a source. -/
def split (source : String) : List Statement :=
  ofLines 1 (splitLines source.toList)

end Statement

end AgentFlow
