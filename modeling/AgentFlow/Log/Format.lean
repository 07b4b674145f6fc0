import AgentFlow.Json.Text
import AgentFlow.Log.Pattern
import AgentFlow.Log.Record

/-!
# How records are written

A record is written as a line of plain text or as a JSON object, and it may carry an
exception.
-/

namespace AgentFlow.Log

/-- The text of a record: a pattern without arguments stands for itself. -/
def messageOf (pattern : String) (values : List Value) : Except ValueFault String :=
  if values.isEmpty then .ok pattern
  else (fillPattern pattern.toList values).map String.ofList

/-- The text of an exception: its kind, and its own text if it has one. -/
def exceptionText (kind text : String) : String :=
  if text.isEmpty then kind else kind ++ ": " ++ text

/-- A word filled up with spaces to eight characters. -/
def padWord (word : String) : String :=
  word ++ String.ofList (List.replicate (8 - word.length) ' ')

/-- A record as a line of text, the exception on a line of its own. -/
def plainLine (time : String) (record : Record) (exception : Option String) : String :=
  let line := time ++ " [" ++ padWord record.level.word ++ "] " ++ record.logger ++ ": " ++
    record.message
  match exception with
  | none => line
  | some text => if line.endsWith "\n" then line ++ text else line ++ "\n" ++ text

/-- The members of a record as a JSON object, in order. -/
def members (record : Record) (exception : Option String) : List (String × String) :=
  [("level", record.level.word), ("logger", record.logger), ("msg", record.message)] ++
    (exception.map fun text => ("exc", text)).toList

/-- A record as a JSON object; the time is a number. -/
def jsonLine (time : String) (record : Record) (exception : Option String) : String :=
  let member (key text : String) : List Char :=
    ',' :: ' ' :: Json.encodeString key.toList ++ ':' :: ' ' :: Json.encodeString text.toList
  let rest := (members record exception).flatMap fun (key, text) => member key text
  String.ofList ('{' :: Json.encodeString "ts".toList ++ ':' :: ' ' :: time.toList ++ rest ++ ['}'])

end AgentFlow.Log
