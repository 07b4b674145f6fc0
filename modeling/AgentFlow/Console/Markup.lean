import AgentFlow.Console.Emoji
import AgentFlow.Console.Handler
import AgentFlow.Console.Style

/-!
# Marked-up text

Text for the terminal may hold tags in brackets: `[bold]` opens a style, `[/bold]` closes
the last one of that name that is open, and `[/]` closes the last one of all.  A tag with
an odd number of backslashes in front of it is text.  `escape` makes a text that shows its
brackets, and `shown` gives what the terminal shows, the styles left out.
-/

namespace AgentFlow.Console

open AgentFlow.Number AgentFlow.Text

/-- A piece of marked-up text: a character, or a tag with the backslashes in front of it. -/
inductive Lexeme where
  | plain (c : Char)
  | tag (backslashes : Nat) (body : List Char)
  deriving DecidableEq, Repr

/-- Whether a character may be the first one of a tag. -/
def opensTag (c : Char) : Bool :=
  ('a' ≤ c && c ≤ 'z') || c = '#' || c = '/' || c = '@'

/-- Whether a character stands inside of brackets and does not end a tag. -/
def isInner (c : Char) : Bool := c != '[' && c != ']'

/-- Read a tag: what its brackets hold, and what follows it. -/
def readTag? : List Char → Option (List Char × List Char)
  | '[' :: c :: rest =>
    if opensTag c then
      match rest.dropWhile isInner with
      | ']' :: remaining => some (c :: rest.takeWhile isInner, remaining)
      | _ => none
    else none
  | _ => none

/-- A tag is not empty. -/
theorem readTag?_length {cs body remaining : List Char}
    (found : readTag? cs = some (body, remaining)) : remaining.length < cs.length := by
  unfold readTag? at found
  split at found
  · rename_i c rest
    split at found
    · split at found
      · rename_i after equal
        have shorter := (List.dropWhile_sublist isInner (l := rest)).length_le
        rw [equal] at shorter
        simp only [Option.some.injEq, Prod.mk.injEq] at found
        rw [← found.2]
        simp only [List.length_cons] at shorter ⊢
        omega
      · simp at found
    · simp at found
  · simp at found

/-- The number of backslashes that a text starts with. -/
def leadingBackslashes (cs : List Char) : Nat := (cs.takeWhile (· == '\\')).length

/-- The pieces of marked-up text.  All backslashes in front of a tag belong to it. -/
def lexemes : List Char → List Lexeme
  | [] => []
  | c :: rest =>
    let backslashes := leadingBackslashes (c :: rest)
    match _found : readTag? ((c :: rest).drop backslashes) with
    | some (body, remaining) => .tag backslashes body :: lexemes remaining
    | none => .plain c :: lexemes rest
termination_by cs => cs.length
decreasing_by
  · have shorter := readTag?_length _found
    simp only [List.length_drop] at shorter
    omega
  · simp

/-- A tag as it is written. -/
def bracketed (body : List Char) : List Char := '[' :: body ++ [']']

/-- A number of backslashes. -/
def backslashRun (n : Nat) : List Char := List.replicate n '\\'

/-- A piece as it is written. -/
def Lexeme.chars : Lexeme → List Char
  | .plain c => [c]
  | .tag backslashes body => backslashRun backslashes ++ bracketed body

/-- A piece with one more backslash in front of its tag than twice those there are. -/
def Lexeme.escaped : Lexeme → List Char
  | .plain c => [c]
  | .tag backslashes body => backslashRun (2 * backslashes + 1) ++ bracketed body

/-- Whether a text ends with exactly one backslash. -/
def endsWithLoneBackslash (cs : List Char) : Bool := leadingBackslashes cs.reverse == 1

/-- The marked-up text that shows a text.  A backslash at its end is doubled, so that it
does not take the tag that follows for text. -/
def escapeChars (cs : List Char) : List Char :=
  let escaped := (lexemes cs).flatMap Lexeme.escaped
  if endsWithLoneBackslash escaped then escaped ++ ['\\'] else escaped

/-- `escapeChars` as a string. -/
def escape (s : String) : String := String.ofList (escapeChars s.toList)

/-- What is wrong with marked-up text: a closing tag that closes nothing, a handler that
cannot be read, or a style with a number that cannot be read. -/
inductive MarkupFault where
  | unmatched
  | handler
  | number (fault : IntegerFault)
  deriving DecidableEq, Repr

/-- An open tag: the name of its style, and what stands behind the equals sign. -/
structure OpenTag where
  name : String
  parameters : List Char
  deriving DecidableEq, Repr

/-- The tags that are open, the last one first. -/
abbrev OpenTags := List OpenTag

namespace OpenTags

/-- Close the first of some tags that is of a kind. -/
def close (tags : OpenTags) (isMeant : OpenTag → Bool) : Except MarkupFault OpenTags :=
  match tags.find? isMeant with
  | none => .error .unmatched
  | some tag =>
    if isHandlerName tag.name && !tag.parameters.isEmpty && !isHandler tag.parameters then
      .error .handler
    else .ok (tags.eraseP isMeant)

/-- The tags that are open after a tag; a closing tag needs one to close. -/
def afterTag (tags : OpenTags) (body : List Char) : Except MarkupFault OpenTags := do
  match body.takeWhile (· != '=') with
  | '/' :: name =>
    if (trim name).isEmpty then tags.close fun _ => true
    else
      let name ← (styleName name).mapError .number
      tags.close (·.name = name)
  | name =>
    let parameters := (body.drop name.length).drop 1
    return ⟨← (styleName name).mapError .number, parameters⟩ :: tags

end OpenTags

/-- A text without the backslashes in front of its opening brackets. -/
def withoutBackslashes : List Char → List Char
  | [] => []
  | '\\' :: '[' :: rest => '[' :: withoutBackslashes rest
  | c :: rest => c :: withoutBackslashes rest

/-- What is shown of a text between tags. -/
def shownPlain (cs : List Char) : List Char := withEmoji (withoutBackslashes cs)

/-- What is shown of marked-up text when some tags are open and a text in front of it, the
last character first, is not shown yet. -/
def shownFrom (tags : OpenTags) (front : List Char) :
    List Lexeme → Except MarkupFault (List Char)
  | [] => .ok (shownPlain front.reverse)
  | .plain c :: rest => shownFrom tags (c :: front) rest
  | .tag backslashes body :: rest => do
    let shown := shownPlain front.reverse ++ backslashRun (backslashes / 2)
    if backslashes % 2 = 1 then
      return shown ++ withEmoji (bracketed body) ++ (← shownFrom tags [] rest)
    else
      return shown ++ (← shownFrom (← tags.afterTag body) [] rest)

/-- Whether a character is one that the terminal takes for a command. -/
def isControl (c : Char) : Bool :=
  c = '\x07' || c = '\x08' || c = '\x0b' || c = '\x0c' || c = '\r'

/-- What the terminal shows of marked-up text. -/
def shown (s : String) : Except MarkupFault String :=
  (shownFrom [] [] (lexemes s.toList)).map fun cs => String.ofList (cs.filter (!isControl ·))

/-- A text in a style. -/
def styled (style text : String) : String := "[" ++ style ++ "]" ++ text ++ "[/" ++ style ++ "]"

end AgentFlow.Console
