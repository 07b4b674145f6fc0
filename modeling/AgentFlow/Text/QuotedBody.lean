/-!
# Bodies of quoted texts

Inside of double quotes a backslash right before a quote makes the quote part of
the text; any other backslash stands for itself.  `escapeQuotes` writes a body and
`unescapeQuotes` reads one; `takeBody` finds the quote that ends it.  A text that
ends with a backslash has no body, because its backslash would escape the closing
quote.
-/

namespace AgentFlow.Text

/-- The value that a body stands for. -/
def unescapeQuotes : List Char → List Char
  | [] => []
  | '\\' :: '"' :: rest => '"' :: unescapeQuotes rest
  | c :: rest => c :: unescapeQuotes rest

/-- The body that stands for a value. -/
def escapeQuotes : List Char → List Char
  | [] => []
  | c :: rest => if c = '"' then '\\' :: '"' :: escapeQuotes rest else c :: escapeQuotes rest

/-- Whether the last character is a backslash. -/
def endsWithBackslash (cs : List Char) : Bool :=
  cs.getLast? == some '\\'

/-- Split a text at the first quote that is not escaped: the body before it, and the
rest from the quote on.  Without such a quote all of the text is body. -/
def takeBody : List Char → List Char × List Char
  | [] => ([], [])
  | '\\' :: '"' :: rest =>
    let (body, after) := takeBody rest
    ('\\' :: '"' :: body, after)
  | c :: rest =>
    if c = '"' then ([], c :: rest)
    else
      let (body, after) := takeBody rest
      (c :: body, after)

theorem takeBody_append (cs : List Char) : (takeBody cs).1 ++ (takeBody cs).2 = cs := by
  fun_induction takeBody cs <;> simp_all

theorem unescapeQuotes_escapeQuotes (cs : List Char) :
    unescapeQuotes (escapeQuotes cs) = cs := by
  induction cs with
  | nil => rfl
  | cons c rest hypothesis =>
    by_cases quote : c = '"'
    · simp [escapeQuotes, unescapeQuotes, quote, hypothesis]
    · simp only [escapeQuotes, quote, if_false]
      rw [unescapeQuotes, hypothesis]
      intro after bothEqual tail
      cases rest with
      | nil => simp [escapeQuotes] at tail
      | cons d rest =>
        by_cases quoteNext : d = '"'
        · simp [escapeQuotes, quoteNext] at tail
        · simp [escapeQuotes, quoteNext] at tail

end AgentFlow.Text
