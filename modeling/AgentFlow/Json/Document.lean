import AgentFlow.Json.Text
import AgentFlow.Number.Integer

/-!
# JSON documents that are written

The files that are written hold texts, integers and objects only.  A document is
laid out with one member to a line, indented by two spaces to a level.
-/

namespace AgentFlow.Json

open AgentFlow.Number

/-- A document that is written. -/
inductive Document where
  | text (s : String)
  | int (n : Int)
  | object (members : List (String × Document))

namespace Document

/-- A line feed and the indentation of a level. -/
def newLine (level : Nat) : List Char :=
  '\n' :: List.replicate (2 * level) ' '

mutual

/-- A document on the given level of indentation. -/
def render (level : Nat) : Document → List Char
  | .text s => encodeString s.toList
  | .int n => integerChars n
  | .object [] => ['{', '}']
  | .object (member :: members) =>
    '{' :: newLine (level + 1) ++ renderMember (level + 1) member ++
      renderMembers (level + 1) members ++ newLine level ++ ['}']

/-- One member of an object. -/
def renderMember (level : Nat) : String × Document → List Char
  | (key, document) => encodeString key.toList ++ ':' :: ' ' :: render level document

/-- The members after the first. -/
def renderMembers (level : Nat) : List (String × Document) → List Char
  | [] => []
  | member :: members =>
    ',' :: newLine level ++ renderMember level member ++ renderMembers level members

end

mutual

/-- The first integer of a document that has more digits than are written. -/
def longInteger? : Document → Option Int
  | .text _ => none
  | .int n => if Nat.pow 10 maxDigits ≤ n.natAbs then some n else none
  | .object members => longIntegerAmong? members

/-- The first integer of some members that has more digits than are written. -/
def longIntegerAmong? : List (String × Document) → Option Int
  | [] => none
  | (_, document) :: members => (longInteger? document).or (longIntegerAmong? members)

end

/-- The content of a file that holds the document: the layout and a line feed. -/
def fileText (document : Document) : String :=
  String.ofList (document.render 0 ++ ['\n'])

/-- `fileText`, if the integers are not too long to be written. -/
def fileText? (document : Document) : Except IntegerFault String :=
  match document.longInteger? with
  | some n => .error (.tooLong (integerChars n).length)
  | none => .ok document.fileText

end Document

end AgentFlow.Json
