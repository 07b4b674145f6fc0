import AgentFlow.Log.Record
import AgentFlow.Workflow.Invocation
import AgentFlow.Workflow.MacroTable
import AgentFlow.Workflow.Statement

/-!
# Expanded sources

A source without its macros: the definitions are taken out, and every call
`$name:"instruction"` becomes an invocation of the agent at the end of the chain of
the macro, with the texts of the chain in front of the instruction.  Definitions are
collected first, so a call may stand before the definition it uses.
-/

namespace AgentFlow

open AgentFlow.Text

/-- The statements without macros, and the macros. -/
structure Expanded where
  statements : List Statement
  macros : MacroTable

namespace Expanded

/-- The texts of a chain and an instruction, with an empty line between each two. -/
def joinPreambles (pieces : List String) : String :=
  String.intercalate "\n\n" pieces

/-- Take the definitions out of statements. -/
def collect (default : Value) (macros : MacroTable) :
    List Statement → Except Error (MacroTable × List Statement)
  | [] => .ok (macros, [])
  | statement :: rest =>
    if Macro.isDefinition statement.text then
      match Macro.ofText (trim statement.text.toList) statement.line default with
      | .error fault => .error (.malformed fault (.line statement.line) statement.text)
      | .ok definition =>
        match macros.find? definition.name with
        | some first =>
          .error (.malformed (.redefined definition.name first.line) (.line statement.line)
            statement.text)
        | none => collect default (macros ++ [definition]) rest
    else
      (collect default macros rest).map fun (macros, remaining) => (macros, statement :: remaining)

/-- Expand one call. -/
def expandCall (macros : MacroTable) (statement : Statement) : Except Error Statement :=
  let text := statement.text
  let refuse (fault : SyntaxFault) : Except Error Statement :=
    .error (.malformed fault (.line statement.line) text)
  match CallForm.read? (text.toList.drop 1) with
  | none => refuse (.call text)
  | some form =>
    let name := String.ofList form.name
    let instruction := unescapeQuotes form.body
    if instruction.isEmpty then refuse (.emptyCall name text)
    else do
      let (agent, preambles) ← (macros.resolve name).mapError (·.placedAt (.line statement.line))
      let whole := joinPreambles (preambles ++ [String.ofList instruction])
      let output := form.output.map String.ofList
      let invocation ← (Invocation.make? agent whole output).mapError .form
      match invocation.serialize with
      | .error _ => refuse (.unquotableCall name)
      | .ok expandedText =>
        let definition := macros.find? name
        .ok {
          text := expandedText
          line := statement.line
          expansion := some {
            macroName := name
            baseAgent := agent
            output := output
            model := (definition.map Macro.model).getD .null
            callText := text
            line := statement.line
            definitionLine := (definition.map Macro.line).getD 0 } }

/-- Expand a statement if it is a call. -/
def expandStatement (macros : MacroTable) (statement : Statement) : Except Error Statement :=
  if Macro.isCall statement.text then expandCall macros statement else .ok statement

/-- Expand statements in order. -/
def expandAll (macros : MacroTable) : List Statement → Except Error (List Statement)
  | [] => .ok []
  | statement :: rest => do
    let first ← expandStatement macros statement
    let others ← expandAll macros rest
    .ok (first :: others)

/-- A source without its macros. -/
def ofSource (source : String) (default : Value) : Except Error Expanded := do
  let (macros, remaining) ← collect default [] (Statement.split source)
  let statements ← expandAll macros remaining
  .ok ⟨statements, macros⟩

/-- The source that has the statements, one after another. -/
def text (expanded : Expanded) : String :=
  String.intercalate "\n" (expanded.statements.map Statement.text)

/-- What is known about the expanded calls. -/
def expansions (expanded : Expanded) : List Expansion :=
  expanded.statements.filterMap Statement.expansion

/-- What is logged once a source with macros is expanded. -/
def records (expanded : Expanded) : List Log.Record :=
  if expanded.macros.isEmpty then []
  else
    let calls := Number.integerText expanded.expansions.length
    let definitions := Number.integerText expanded.macros.length
    [⟨.debug, Log.loggerFor "workflow.macros",
      "Expanded " ++ calls ++ " macro call(s) using " ++ definitions ++ " definition(s)"⟩]

end Expanded

end AgentFlow
