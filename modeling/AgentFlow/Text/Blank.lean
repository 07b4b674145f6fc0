/-!
# White space

The blanks that a text is trimmed by, and trimming itself.  The class is the
Unicode white space together with the four separators U+001C to U+001F; it does
not hold the zero-width space or the byte order mark.
-/

namespace AgentFlow.Text

/-- White space, for trimming and between the parts of a definition. -/
def isBlank (c : Char) : Bool :=
  let n := c.toNat
  (0x09 ≤ n && n ≤ 0x0D) || (0x1C ≤ n && n ≤ 0x20) || n == 0x85 || n == 0xA0 ||
    n == 0x1680 || (0x2000 ≤ n && n ≤ 0x200A) || n == 0x2028 || n == 0x2029 ||
    n == 0x202F || n == 0x205F || n == 0x3000

/-- The text without the blanks at its start. -/
def trimStart (cs : List Char) : List Char :=
  cs.dropWhile isBlank

/-- The text without the blanks at its end. -/
def trimEnd (cs : List Char) : List Char :=
  (cs.reverse.dropWhile isBlank).reverse

/-- The text without the blanks at either end. -/
def trim (cs : List Char) : List Char :=
  trimEnd (trimStart cs)

/-- `trim` on strings. -/
def trimmed (s : String) : String :=
  String.ofList (trim s.toList)

/-- What trimming keeps does not start with a blank. -/
theorem not_isBlank_of_trimStart_eq_cons {cs rest : List Char} {c : Char}
    (kept : trimStart cs = c :: rest) : isBlank c = false := by
  have head := List.head?_dropWhile_not isBlank cs
  rw [show cs.dropWhile isBlank = c :: rest from kept] at head
  simpa using head

end AgentFlow.Text
