import AgentFlow.Text.Digit
import AgentFlow.Text.Printable

/-!
# Quoted texts

How a message shows a text exactly: between single quotes, or between double
quotes when it holds a single quote and no double one.  The backslash and the
quote in use are escaped, and a character that is not printable is written by
its code.
-/

namespace AgentFlow.Text

/-- The single quote. -/
def singleQuote : Char := '\x27'

/-- The quote that a quoted text is put between. -/
def quoteMark (cs : List Char) : Char :=
  if cs.contains singleQuote && !cs.contains '"' then '"' else singleQuote

/-- One character of a quoted text. -/
def quotedChar (mark c : Char) : List Char :=
  if c = mark ∨ c = '\\' then ['\\', c]
  else if c = '\n' then ['\\', 'n']
  else if c = '\r' then ['\\', 'r']
  else if c = '\t' then ['\\', 't']
  else if isPrintable c then [c]
  else if c.toNat ≤ 0xFF then '\\' :: 'x' :: hexDigits 2 c.toNat
  else if c.toNat ≤ 0xFFFF then '\\' :: 'u' :: hexDigits 4 c.toNat
  else '\\' :: 'U' :: hexDigits 8 c.toNat

/-- The quoted form of a text. -/
def quotedChars (cs : List Char) : List Char :=
  let mark := quoteMark cs
  mark :: cs.flatMap (quotedChar mark) ++ [mark]

/-- `quotedChars` on strings. -/
def quoted (s : String) : String :=
  String.ofList (quotedChars s.toList)

/-- The single quote is used unless the text holds one and no double quote. -/
theorem quoteMark_eq_singleQuote_iff (cs : List Char) :
    quoteMark cs = singleQuote ↔ (singleQuote ∈ cs → '"' ∈ cs) := by
  by_cases single : singleQuote ∈ cs <;> by_cases double : '"' ∈ cs <;>
    simp [quoteMark, double, singleQuote]

end AgentFlow.Text
