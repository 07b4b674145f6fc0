import AgentFlow.Error.Basic
import AgentFlow.Text.Blank
import AgentFlow.Text.Identifier
import AgentFlow.Text.QuotedBody
import AgentFlow.Text.Word

/-!
# Macros

A macro gives a name to an agent and a text that goes in front of every instruction:
`$name := { base: "agent", prompt: "text", model: "model" }`.  A base that starts
with a dollar sign names another macro.
-/

namespace AgentFlow

open AgentFlow.Text

/-- A macro.  The line is that of its definition. -/
structure Macro where
  name : String
  base : String
  prompt : String
  model : Value
  line : Int

/-- The model of a macro that names none. -/
def defaultModel : Value := .text "sonnet"

namespace Macro

/-- The macro that a base names, if it names a macro. -/
def link? (base : String) : Option String :=
  match base.toList with
  | '$' :: name => some (String.ofList name)
  | _ => none

/-- The fields of a definition. -/
inductive Field where
  | base
  | prompt
  | model
  deriving DecidableEq, Repr

/-- The key of a field. -/
def Field.word : Field → String
  | .base => "base"
  | .prompt => "prompt"
  | .model => "model"

/-- The field of a key. -/
def Field.ofWord? (key : List Char) : Option Field :=
  [Field.base, .prompt, .model].find? (·.word.toList == key)

/-- The fields read so far, with their values. -/
abbrev Fields := List (Field × List Char)

/-- What a definition starts with: its name, and what follows the mark `:=`. -/
def takeHead? : List Char → Option (List Char × List Char)
  | '$' :: cs =>
    let (name, rest) := takeIdentifier cs
    if name.isEmpty then none
    else
      match trimStart rest with
      | ':' :: '=' :: rest => some (name, rest)
      | _ => none
  | _ => none

/-- Whether a text starts as a definition does. -/
def isDefinition (text : String) : Bool :=
  (takeHead? text.toList).isSome

/-- Whether a text starts as a call does: with a dollar sign, but not as a definition. -/
def isCall (text : String) : Bool :=
  text.toList.head? == some '$' && !isDefinition text

/-- What stands between the first brace of a definition and the last. -/
def takeBlock? (cs : List Char) : Option (List Char) :=
  match trimStart cs with
  | '{' :: rest => if rest.getLast? = some '}' then some rest.dropLast else none
  | _ => none

/-- One field: the key, the body of the value, and the rest. -/
def takeField? (cs : List Char) : Option (List Char × List Char × List Char) :=
  let afterBlanks := trimStart cs
  let key := afterBlanks.takeWhile isWordChar
  if key.isEmpty then none
  else
    match trimStart (afterBlanks.dropWhile isWordChar) with
    | ':' :: rest =>
      match trimStart rest with
      | '"' :: rest =>
        match takeBody rest with
        | (body, _ :: after) => some (key, body, trimStart after)
        | (_, []) => none
      | _ => none
    | _ => none

theorem trimStart_length (cs : List Char) : (trimStart cs).length ≤ cs.length :=
  (List.dropWhile_sublist isBlank).length_le

/-- A field takes at least one character. -/
theorem takeField?_length {cs key body rest : List Char}
    (taken : takeField? cs = some (key, body, rest)) : rest.length < cs.length := by
  unfold takeField? at taken
  dsimp only at taken
  split at taken
  · cases taken
  · split at taken
    · rename_i afterKey atColon
      split at taken
      · rename_i quoted atQuote
        split at taken
        · rename_i found mark after atBody
          simp only [Option.some.injEq, Prod.mk.injEq] at taken
          obtain ⟨_, _, rfl⟩ := taken
          have bodyLengths := congrArg List.length (takeBody_append quoted)
          rw [atBody] at bodyLengths
          have keyTrim := trimStart_length ((trimStart cs).dropWhile isWordChar)
          rw [atColon] at keyTrim
          have keyDrop := (List.dropWhile_sublist (l := trimStart cs) isWordChar).length_le
          have start := trimStart_length cs
          have colonTrim := trimStart_length afterKey
          rw [atQuote] at colonTrim
          have ending := trimStart_length after
          simp only [List.length_append, List.length_cons] at bodyLengths keyTrim colonTrim
          omega
        · cases taken
      · cases taken
    · cases taken

/-- Read the fields of a definition, with commas between them. -/
def readFields (macroName : String) (block : List Char) (fields : Fields) (cs : List Char) :
    Except SyntaxFault Fields :=
  match _taken : takeField? cs with
  | none => .error (.malformedFields macroName (String.ofList (trim block)))
  | some (key, body, rest) =>
    match Field.ofWord? key with
    | none => .error (.unknownField macroName (String.ofList key))
    | some field =>
      if (fields.lookup field).isSome then
        .error (.repeatedField macroName (String.ofList key))
      else
        let fields := fields ++ [(field, unescapeQuotes body)]
        if rest.isEmpty then .ok fields
        else if rest.head? = some ',' then readFields macroName block fields (rest.drop 1)
        else .error (.expectedComma macroName)
termination_by cs.length
decreasing_by
  have shorter := takeField?_length _taken
  rw [List.length_drop]
  omega

/-- The value of a field that must be there and must not be empty. -/
def required (macroName : String) (fields : Fields) (field : Field) :
    Except SyntaxFault (List Char) :=
  match fields.lookup field with
  | some (c :: value) => .ok (c :: value)
  | _ => .error (.missingField macroName field.word)

/-- Whether a base is the name of an agent, or a dollar sign and the name of a macro. -/
def isBase (base : String) : Bool :=
  isIdentifier ((link? base).getD base)

/-- The macro that a stripped text defines. -/
def ofText (text : List Char) (line : Int) (default : Value) : Except SyntaxFault Macro :=
  let malformed := SyntaxFault.definition (String.ofList text)
  match takeHead? text with
  | none => .error malformed
  | some (name, rest) =>
    match takeBlock? rest with
    | none => .error malformed
    | some block => do
      let name := String.ofList name
      let fields ← readFields name block [] block
      let base ← required name fields .base
      let prompt ← required name fields .prompt
      let base := String.ofList base
      if isBase base then
        let model := (fields.lookup .model).getD []
        .ok {
          name := name
          base := base
          prompt := String.ofList prompt
          model := if model.isEmpty then default else .text (String.ofList model)
          line := line }
      else .error (.invalidBase name base)

/-- Read one definition. -/
def parse (text : String) (line : Int) (default : Value) : Except Error Macro :=
  (ofText (trim text.toList) line default).mapError fun fault => .malformed fault .unplaced text

end Macro

end AgentFlow
