import AgentFlow.Text.QuotedBody

/-!
# What stands between two quotes

`QuotedBody` says which texts can stand in front of a closing quote: every quote has
a backslash of its own right before it, and no backslash is left over at the end
(`quotedBody_iff` says it in these words).  Exactly these texts are found by `takeBody`,
and on them escaping undoes unescaping, although a lone backslash and a pair of them are
written the same way as they read.
-/

namespace AgentFlow.Text

/-- A text whose quotes are all escaped and which does not escape what follows it. -/
inductive QuotedBody : List Char → Prop where
  | nil : QuotedBody []
  | quote {rest : List Char} : QuotedBody rest → QuotedBody ('\\' :: '"' :: rest)
  | backslash {c : Char} {rest : List Char} :
      c ≠ '"' → QuotedBody (c :: rest) → QuotedBody ('\\' :: c :: rest)
  | plain {c : Char} {rest : List Char} :
      c ≠ '"' → c ≠ '\\' → QuotedBody rest → QuotedBody (c :: rest)

theorem takeBody_cons {c : Char} {rest : List Char} (noQuote : c ≠ '"')
    (noEscape : c = '\\' → rest.head? ≠ some '"') :
    takeBody (c :: rest) = (c :: (takeBody rest).1, (takeBody rest).2) := by
  rw [takeBody, if_neg noQuote]
  rintro after rfl rfl
  exact noEscape rfl rfl

theorem unescapeQuotes_cons {c : Char} {rest : List Char}
    (noEscape : c = '\\' → rest.head? ≠ some '"') :
    unescapeQuotes (c :: rest) = c :: unescapeQuotes rest := by
  rw [unescapeQuotes]
  rintro after rfl rfl
  exact noEscape rfl rfl

theorem escapeQuotes_quote (rest : List Char) :
    escapeQuotes ('"' :: rest) = '\\' :: '"' :: escapeQuotes rest := by
  simp [escapeQuotes]

theorem escapeQuotes_cons {c : Char} {rest : List Char} (noQuote : c ≠ '"') :
    escapeQuotes (c :: rest) = c :: escapeQuotes rest := by
  simp [escapeQuotes, noQuote]

theorem escapeQuotes_eq_nil_iff {value : List Char} : escapeQuotes value = [] ↔ value = [] := by
  cases value with
  | nil => simp [escapeQuotes]
  | cons c rest =>
      unfold escapeQuotes
      split <;> simp

theorem unescapeQuotes_eq_nil_iff {body : List Char} : unescapeQuotes body = [] ↔ body = [] := by
  fun_cases unescapeQuotes body <;> simp_all

theorem endsWithBackslash_cons (c : Char) (rest : List Char) :
    endsWithBackslash (c :: rest) = (endsWithBackslash rest || (rest.isEmpty && c == '\\')) := by
  cases rest with
  | nil => simp [endsWithBackslash]
  | cons d rest => simp [endsWithBackslash, List.getLast?_cons_cons]

namespace QuotedBody

theorem head?_ne_quote {body : List Char} (quoted : QuotedBody body) :
    body.head? ≠ some '"' := by
  cases quoted with
  | nil => simp
  | quote rest => simp
  | backslash noQuote rest => simp
  | plain noQuote noEscape rest => simpa using noQuote

/-- The quote behind a body ends it. -/
theorem takeBody_append {body : List Char} (quoted : QuotedBody body) (rest : List Char) :
    takeBody (body ++ '"' :: rest) = (body, '"' :: rest) := by
  induction quoted with
  | nil => simp [takeBody]
  | quote _ induction => simp [takeBody, induction]
  | backslash noQuote _ induction =>
      rw [List.cons_append, takeBody_cons (by decide) (by simpa using noQuote), induction]
  | plain noQuote noEscape _ induction =>
      rw [List.cons_append, takeBody_cons noQuote (fun same => absurd same noEscape), induction]

/-- A backslash may be put in front of a body unless nothing follows it. -/
theorem cons {c : Char} {rest : List Char} (noQuote : c ≠ '"')
    (complete : c = '\\' → rest ≠ []) (quoted : QuotedBody rest) : QuotedBody (c :: rest) := by
  by_cases isBackslash : c = '\\'
  · subst isBackslash
    cases rest with
    | nil => exact absurd rfl (complete rfl)
    | cons d rest =>
        refine backslash ?_ quoted
        simpa using head?_ne_quote quoted
  · exact plain noQuote isBackslash quoted

/-- What is taken in front of a quote is a body. -/
theorem of_takeBody {cs body after : List Char} {mark : Char}
    (taken : takeBody cs = (body, mark :: after)) : mark = '"' ∧ QuotedBody body := by
  fun_induction takeBody cs generalizing body with
  | case1 => cases taken
  | case2 rest first others split induction =>
      cases taken
      obtain ⟨isQuote, quoted⟩ := induction split
      exact ⟨isQuote, quote quoted⟩
  | case3 rest _ =>
      cases taken
      exact ⟨rfl, nil⟩
  | case4 c rest noEscape noQuote first others split induction =>
      cases taken
      obtain ⟨isQuote, quoted⟩ := induction split
      refine ⟨isQuote, cons noQuote ?_ quoted⟩
      -- A backslash with nothing behind it would have escaped the closing quote.
      rintro isBackslash rfl
      have whole := Text.takeBody_append rest
      rw [split, isQuote] at whole
      exact noEscape after isBackslash whole.symm

/-- The body of a value is a body, unless the value would escape the closing quote. -/
theorem escapeQuotes {value : List Char} (complete : endsWithBackslash value = false) :
    QuotedBody (escapeQuotes value) := by
  induction value with
  | nil => exact nil
  | cons c rest induction =>
      have quotedRest : QuotedBody (Text.escapeQuotes rest) := by
        cases rest with
        | nil => exact nil
        | cons d rest => exact induction (by simpa [endsWithBackslash] using complete)
      by_cases isQuote : c = '"'
      · subst isQuote
        rw [escapeQuotes_quote]
        exact quote quotedRest
      · rw [escapeQuotes_cons isQuote]
        refine cons isQuote ?_ quotedRest
        rintro rfl empty
        rw [escapeQuotes_eq_nil_iff.mp empty] at complete
        cases complete

/-- Every body is the one that is written for its value. -/
theorem escapeQuotes_unescapeQuotes {body : List Char} (quoted : QuotedBody body) :
    Text.escapeQuotes (unescapeQuotes body) = body := by
  induction quoted with
  | nil => rfl
  | quote _ induction => simp [unescapeQuotes, escapeQuotes_quote, induction]
  | backslash noQuote _ induction =>
      rw [unescapeQuotes_cons (by simpa using noQuote), escapeQuotes_cons (by decide), induction]
  | plain noQuote noEscape _ induction =>
      rw [unescapeQuotes_cons (fun same => absurd same noEscape), escapeQuotes_cons noQuote,
        induction]

/-- No body stands for a value that would escape the closing quote. -/
theorem endsWithBackslash_unescapeQuotes {body : List Char} (quoted : QuotedBody body) :
    endsWithBackslash (unescapeQuotes body) = false := by
  induction quoted with
  | nil => rfl
  | @quote rest _ induction =>
      rw [unescapeQuotes, endsWithBackslash_cons, induction]
      simp
  | @backslash c rest noQuote inner induction =>
      rw [unescapeQuotes_cons (by simpa using noQuote), endsWithBackslash_cons, induction]
      simp [unescapeQuotes_eq_nil_iff]
  | plain noQuote noEscape _ induction =>
      rw [unescapeQuotes_cons (fun same => absurd same noEscape), endsWithBackslash_cons,
        induction]
      simp [noEscape]

end QuotedBody

/-- A backslash stands right before every quote. -/
def QuotesEscaped (body : List Char) : Prop :=
  ∀ front back, body = front ++ '"' :: back → front.getLast? = some '\\'

namespace QuotesEscaped

theorem nil : QuotesEscaped [] := by
  intro front back split
  simp at split

theorem ne_quote {c : Char} {rest : List Char} (escaped : QuotesEscaped (c :: rest)) :
    c ≠ '"' := by
  rintro rfl
  cases escaped [] rest rfl

/-- No quote follows what escapes none. -/
theorem head?_ne_quote {c : Char} {rest : List Char} (escaped : QuotesEscaped (c :: rest))
    (noEscape : ∀ after, c = '\\' → rest = '"' :: after → False) : rest.head? ≠ some '"' := by
  intro quoteNext
  obtain ⟨after, rfl⟩ := List.head?_eq_some_iff.mp quoteNext
  exact noEscape after (Option.some.inj (escaped [c] after rfl)) rfl

/-- What a quote does not follow may be left out or put in front. -/
theorem cons_iff {c : Char} {rest : List Char} (noQuote : c ≠ '"')
    (before : rest.head? ≠ some '"') : QuotesEscaped (c :: rest) ↔ QuotesEscaped rest := by
  constructor
  · rintro escaped front back rfl
    cases front with
    | nil => exact absurd rfl before
    | cons d front =>
        have last := escaped (c :: d :: front) back rfl
        rwa [List.getLast?_cons_cons] at last
  · rintro escaped front back split
    cases front with
    | nil => exact absurd (List.cons.inj split).1 noQuote
    | cons d front =>
        obtain ⟨rfl, rfl⟩ := List.cons.inj split
        have last := escaped front back rfl
        rw [List.getLast?_cons, last]
        rfl

/-- So may an escaped quote. -/
theorem quote_iff {rest : List Char} :
    QuotesEscaped ('\\' :: '"' :: rest) ↔ QuotesEscaped rest := by
  constructor
  · rintro escaped front back rfl
    have last := escaped ('\\' :: '"' :: front) back rfl
    cases front with
    | nil => cases last
    | cons d front => rwa [List.getLast?_cons_cons, List.getLast?_cons_cons] at last
  · rintro escaped front back split
    rcases front with _ | ⟨first, _ | ⟨second, front⟩⟩
    · cases split
    · obtain ⟨rfl, -⟩ := List.cons.inj split
      rfl
    · obtain ⟨-, split⟩ := List.cons.inj split
      obtain ⟨-, rfl⟩ := List.cons.inj split
      have last := escaped front back rfl
      rw [List.getLast?_cons_cons, List.getLast?_cons, last]
      rfl

end QuotesEscaped

/-- A body is a text whose quotes are escaped and that does not end with a backslash. -/
theorem quotedBody_iff {body : List Char} :
    QuotedBody body ↔ QuotesEscaped body ∧ endsWithBackslash body = false := by
  constructor
  · intro quoted
    induction quoted with
    | nil => exact ⟨.nil, rfl⟩
    | quote _ induction =>
        refine ⟨QuotesEscaped.quote_iff.mpr induction.1, ?_⟩
        rw [endsWithBackslash_cons, endsWithBackslash_cons, induction.2]
        simp
    | backslash noQuote quoted induction =>
        refine ⟨(QuotesEscaped.cons_iff (by decide) quoted.head?_ne_quote).mpr induction.1, ?_⟩
        rw [endsWithBackslash_cons, induction.2]
        simp
    | plain noQuote noEscape quoted induction =>
        refine ⟨(QuotesEscaped.cons_iff noQuote quoted.head?_ne_quote).mpr induction.1, ?_⟩
        rw [endsWithBackslash_cons, induction.2]
        simp [noEscape]
  · rintro ⟨escaped, complete⟩
    induction body using unescapeQuotes.induct with
    | case1 => exact .nil
    | case2 rest induction =>
        rw [endsWithBackslash_cons, endsWithBackslash_cons] at complete
        exact .quote (induction (QuotesEscaped.quote_iff.mp escaped) (by simpa using complete))
    | case3 c rest noEscape induction =>
        rw [endsWithBackslash_cons] at complete
        have noQuote := escaped.ne_quote
        have before := escaped.head?_ne_quote noEscape
        refine .cons noQuote ?_ (induction ((QuotesEscaped.cons_iff noQuote before).mp escaped) ?_)
        · rintro rfl rfl
          cases complete
        · exact (Bool.or_eq_false_iff.mp complete).1

end AgentFlow.Text
