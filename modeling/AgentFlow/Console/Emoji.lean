import AgentFlow.Console.Emoji.DToJ
import AgentFlow.Console.Emoji.FromS
import AgentFlow.Console.Emoji.KToR
import AgentFlow.Console.Emoji.UpToC
import AgentFlow.Text.Blank
import AgentFlow.Text.Lower

/-!
# Emoji codes

A name between two colons stands for an emoji, as in `:rocket:`.  The name may end in
`-text` or `-emoji`, which asks for one of the two ways to draw it.  A code whose name is
not known is text.
-/

namespace AgentFlow.Console

open AgentFlow.Text

/-- Words taken two by two. -/
def inPairs : List String → List (String × String)
  | first :: second :: rest => (first, second) :: inPairs rest
  | _ => []

/-- The emoji by their names. -/
def emojiTable : List (String × String) :=
  (emojiUpToC ++ emojiDToJ ++ emojiKToR ++ emojiFromS).flatMap fun line =>
    inPairs (line.splitOn " ")

/-- The ends of names that ask for a way to draw an emoji, and the characters that do. -/
def emojiVariants : List (List Char × Char) :=
  [("-text".toList, '\uFE0E'), ("-emoji".toList, '\uFE0F')]

/-- A name without the end that asks for a way to draw it, and what asks for it. -/
def splitVariant (name : List Char) : List Char × List Char :=
  match emojiVariants.find? fun (ending, _) => ending.isSuffixOf name with
  | some (ending, selector) => (name.take (name.length - ending.length), [selector])
  | none => (name, [])

/-- The emoji that a name between colons stands for. -/
def emoji? (name : List Char) : Option (List Char) :=
  let (name, selector) := splitVariant name
  (emojiTable.lookup (String.ofList (lowered name))).map (·.toList ++ selector)

/-- A name up to the colon that ends it, and what follows the colon.  A name holds no
blanks. -/
def takeEmojiName? : List Char → Option (List Char × List Char)
  | [] => none
  | c :: rest =>
    if c = ':' then some ([], rest)
    else if isBlank c then none
    else (takeEmojiName? rest).map fun (name, rest) => (c :: name, rest)

/-- A name with its colon is not empty. -/
theorem takeEmojiName?_length {cs name rest : List Char}
    (found : takeEmojiName? cs = some (name, rest)) : rest.length < cs.length := by
  induction cs generalizing name with
  | nil => simp [takeEmojiName?] at found
  | cons c cs ih =>
    unfold takeEmojiName? at found
    split at found
    · simp only [Option.some.injEq, Prod.mk.injEq] at found
      simp [← found.2]
    · split at found
      · simp at found
      · simp only [Option.map_eq_some_iff, Prod.mk.injEq] at found
        obtain ⟨⟨_, _⟩, inner, _, rfl⟩ := found
        exact Nat.lt_succ_of_lt (ih inner)

/-- A text with emoji in the place of their codes. -/
def withEmoji : List Char → List Char
  | [] => []
  | c :: rest =>
    if c = ':' then
      match _found : takeEmojiName? rest with
      | some (name, after) => (emoji? name).getD (':' :: name ++ [':']) ++ withEmoji after
      | none => ':' :: withEmoji rest
    else c :: withEmoji rest
termination_by cs => cs.length
decreasing_by
  · have shorter := takeEmojiName?_length _found
    simp only [List.length_cons]
    omega
  · simp
  · simp

end AgentFlow.Console
