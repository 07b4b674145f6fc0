import AgentFlow.Text.Digit
import AgentFlow.Text.Utf16

/-!
# JSON strings

`encodeString` writes a text in ASCII: quotes, backslashes and controls are
escaped, and every other character outside of ASCII is written by its UTF-16
units.  `decodeString` reads any JSON string.  A unit that is half of a surrogate
pair without the other half stands for the replacement character.
-/

namespace AgentFlow.Json

open AgentFlow.Text

/-- One UTF-16 unit as an escape. -/
def escapeUnit (unit : Nat) : List Char :=
  '\\' :: 'u' :: hexDigits 4 unit

/-- One character inside of a JSON string. -/
def encodeChar (c : Char) : List Char :=
  if c = '"' then ['\\', '"']
  else if c = '\\' then ['\\', '\\']
  else if c = '\n' then ['\\', 'n']
  else if c = '\r' then ['\\', 'r']
  else if c = '\t' then ['\\', 't']
  else if c.toNat = 0x08 then ['\\', 'b']
  else if c.toNat = 0x0C then ['\\', 'f']
  else if 0x20 ≤ c.toNat ∧ c.toNat ≤ 0x7E then [c]
  else if c.toNat < 0x10000 then escapeUnit c.toNat
  else
    let offset := c.toNat - 0x10000
    escapeUnit (0xD800 + offset / 0x400) ++ escapeUnit (0xDC00 + offset % 0x400)

/-- A text as a JSON string, with its quotes. -/
def encodeString (cs : List Char) : List Char :=
  '"' :: cs.flatMap encodeChar ++ ['"']

/-- Four hexadecimal digits and what follows them. -/
def takeUnit? : List Char → Option (Nat × List Char)
  | a :: b :: c :: d :: rest =>
    match hexValue? a, hexValue? b, hexValue? c, hexValue? d with
    | some a, some b, some c, some d => some (((a * 16 + b) * 16 + c) * 16 + d, rest)
    | _, _, _, _ => none
  | _ => none

/-- A second half that follows as an escape of its own. -/
def takeLowUnit? : List Char → Option (Nat × List Char)
  | '\\' :: 'u' :: rest =>
    match takeUnit? rest with
    | some (low, rest) => if isLowUnit low then some (low, rest) else none
    | none => none
  | _ => none

/-- The characters that are escaped by a letter or by themselves. -/
def letterEscape? (c : Char) : Option Char :=
  if c = '"' ∨ c = '\\' ∨ c = '/' then some c
  else if c = 'b' then some '\x08'
  else if c = 'f' then some '\x0C'
  else if c = 'n' then some '\n'
  else if c = 'r' then some '\r'
  else if c = 't' then some '\t'
  else none

/-- The character of an escape by its code, read after the letter that says so. -/
def takeCode? (cs : List Char) : Option (Char × List Char) :=
  match takeUnit? cs with
  | none => none
  | some (unit, rest) =>
    if isHighUnit unit then
      match takeLowUnit? rest with
      | some (low, rest) => some (pairedUnits unit low, rest)
      | none => some (loneUnit unit, rest)
    else some (loneUnit unit, rest)

/-- The character of an escape, read after its backslash. -/
def takeEscape? : List Char → Option (Char × List Char)
  | [] => none
  | c :: rest =>
    if c = 'u' then takeCode? rest
    else (letterEscape? c).map (·, rest)

theorem takeUnit?_length {cs rest : List Char} {unit : Nat}
    (taken : takeUnit? cs = some (unit, rest)) : rest.length < cs.length := by
  unfold takeUnit? at taken
  split at taken
  · split at taken
    · cases taken
      simp only [List.length_cons]
      omega
    · cases taken
  · cases taken

theorem takeLowUnit?_length {cs rest : List Char} {unit : Nat}
    (taken : takeLowUnit? cs = some (unit, rest)) : rest.length < cs.length := by
  unfold takeLowUnit? at taken
  split at taken
  · split at taken
    · rename_i found
      split at taken
      · cases taken
        have shorter := takeUnit?_length found
        simp only [List.length_cons]
        omega
      · cases taken
    · cases taken
  · cases taken

theorem takeCode?_length {cs rest : List Char} {c : Char}
    (taken : takeCode? cs = some (c, rest)) : rest.length < cs.length := by
  unfold takeCode? at taken
  split at taken
  · cases taken
  · rename_i found
    have shorter := takeUnit?_length found
    split at taken
    · split at taken
      · rename_i foundLow
        have shorterLow := takeLowUnit?_length foundLow
        simp only [Option.some.injEq, Prod.mk.injEq] at taken
        obtain ⟨_, rfl⟩ := taken
        omega
      · simp only [Option.some.injEq, Prod.mk.injEq] at taken
        obtain ⟨_, rfl⟩ := taken
        exact shorter
    · simp only [Option.some.injEq, Prod.mk.injEq] at taken
      obtain ⟨_, rfl⟩ := taken
      exact shorter

/-- An escape takes at least one character. -/
theorem takeEscape?_length {cs rest : List Char} {c : Char}
    (taken : takeEscape? cs = some (c, rest)) : rest.length < cs.length := by
  cases cs with
  | nil => cases taken
  | cons head tail =>
    simp only [takeEscape?] at taken
    split at taken
    · have shorter := takeCode?_length taken
      simp only [List.length_cons]
      omega
    · obtain ⟨_, _, pairEq⟩ := Option.map_eq_some_iff.mp taken
      simp only [Prod.mk.injEq] at pairEq
      obtain ⟨_, rfl⟩ := pairEq
      simp

/-- Read the rest of a JSON string after its opening quote: the text, and what
follows the closing quote. -/
def decodeString? (cs : List Char) : Option (List Char × List Char) :=
  match cs with
  | [] => none
  | '"' :: rest => some ([], rest)
  | '\\' :: rest =>
    match taken : takeEscape? rest with
    | none => none
    | some (c, rest') =>
      have : rest'.length < rest.length := takeEscape?_length taken
      (decodeString? rest').map fun (text, after) => (c :: text, after)
  | c :: rest =>
    if c.toNat < 0x20 then none
    else (decodeString? rest).map fun (text, after) => (c :: text, after)
termination_by cs.length
decreasing_by all_goals simp only [List.length_cons]; omega

end AgentFlow.Json
