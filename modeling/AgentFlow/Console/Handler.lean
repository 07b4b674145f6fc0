import AgentFlow.Console.Literal
import AgentFlow.Text.Blank

/-!
# Handlers

A tag whose name starts with `@` may tell what handles it: a dotted name, the name with
literals in parentheses, or literals alone.  That is read when the tag is closed.
-/

namespace AgentFlow.Console

open AgentFlow.Text

/-- Whether a tag of a name tells a handler. -/
def isHandlerName (name : String) : Bool := name.toList.head? = some '@'

/-- Whether a text is in parentheses on one line. -/
def isParenthesized (cs : List Char) : Bool :=
  2 ≤ cs.length && cs.head? = some '(' && cs.getLast? = some ')' && !cs.contains '\n'

/-- Whether it can be read what a tag tells about its handler. -/
def isHandler (cs : List Char) : Bool :=
  let text := trim cs
  let arguments := text.dropWhile fun c => isWordChar c || c = '.'
  if arguments.isEmpty then true
  else Literal.isLiteral (if isParenthesized arguments then arguments else text)

end AgentFlow.Console
