import AgentFlow.Proofs.Text.Lines
import AgentFlow.Proofs.Text.QuotedBody

/-!
# Line ends of one kind

A text has the same lines after each of its line ends is made a line feed.  This says
what is left of a text that is cut into lines and joined again: it is kept if its lines
end at line feeds alone, and only then.
-/

namespace AgentFlow.Text

/-- The text with a line feed for each line end. -/
def withLineFeeds : List Char → List Char
  | [] => []
  | '\r' :: '\n' :: rest => '\n' :: withLineFeeds rest
  | c :: rest => (if isLineBoundary c then '\n' else c) :: withLineFeeds rest

theorem withLineFeeds_cons_of_ne {c : Char} (noReturn : c ≠ '\r') (rest : List Char) :
    withLineFeeds (c :: rest) = (if isLineBoundary c then '\n' else c) :: withLineFeeds rest := by
  rw [withLineFeeds]
  rintro after rfl _
  exact noReturn rfl

theorem withLineFeeds_cons_of_inLine {c : Char} (inLine : isLineBoundary c = false)
    (rest : List Char) : withLineFeeds (c :: rest) = c :: withLineFeeds rest := by
  rw [withLineFeeds_cons_of_ne _ rest, inLine]
  · rfl
  · rintro rfl
    cases inLine

theorem withLineFeeds_line_append {line : List Char} (isLine : IsLine line) (rest : List Char) :
    withLineFeeds (line ++ rest) = line ++ withLineFeeds rest := by
  induction line with
  | nil => rfl
  | cons c line induction =>
      obtain ⟨first, others⟩ := List.forall_mem_cons.mp isLine
      rw [List.cons_append, withLineFeeds_cons_of_inLine first, induction others, List.cons_append]

theorem withLineFeeds_eq_nil_iff {cs : List Char} : withLineFeeds cs = [] ↔ cs = [] := by
  fun_cases withLineFeeds cs <;> simp

theorem onlyNewlines_withLineFeeds (cs : List Char) : OnlyNewlines (withLineFeeds cs) := by
  fun_induction withLineFeeds cs with
  | case1 => exact nofun
  | case2 rest induction => exact .cons (fun _ => rfl) induction
  | case3 c rest _ induction =>
      refine .cons ?_ induction
      split
      · exact fun _ => rfl
      · rename_i inLine
        exact fun boundary => absurd boundary inLine

theorem splitLines_withLineFeeds (cs : List Char) :
    splitLines (withLineFeeds cs) = splitLines cs := by
  fun_induction withLineFeeds cs with
  | case1 => rfl
  | case2 rest induction =>
      rw [splitLines_newline, induction]
      rfl
  | case3 c rest noPair induction =>
      rw [splitLines.eq_3 c rest noPair]
      split
      · rw [splitLines_newline, induction]
      · rename_i inLine
        rw [splitLines_cons (Bool.eq_false_iff.mpr inLine), induction]

theorem withLineFeeds_eq_self_iff {cs : List Char} :
    withLineFeeds cs = cs ↔ OnlyNewlines cs := by
  constructor
  · intro same
    rw [← same]
    exact onlyNewlines_withLineFeeds cs
  · intro only
    induction cs with
    | nil => rfl
    | cons c rest induction =>
        obtain ⟨first, others⟩ := List.forall_mem_cons.mp only
        cases boundary : isLineBoundary c with
        | false => rw [withLineFeeds_cons_of_inLine boundary, induction others]
        | true =>
            obtain rfl := first boundary
            rw [withLineFeeds_cons_of_ne (by decide), induction others]
            rfl

/-- Only a line feed belongs to the line end in front of it. -/
theorem withLineFeeds_append {second : List Char} (first : List Char)
    (noPair : second.head? ≠ some '\n') :
    withLineFeeds (first ++ second) = withLineFeeds first ++ withLineFeeds second := by
  fun_induction withLineFeeds first with
  | case1 => rfl
  | case2 rest induction =>
      show '\n' :: withLineFeeds (rest ++ second) = _
      rw [induction, List.cons_append]
  | case3 c rest noPairInFirst induction =>
      rw [List.cons_append, List.cons_append, ← induction, withLineFeeds]
      rintro after isReturn feed
      cases rest with
      | nil => exact noPair (by rw [show second = '\n' :: after from feed]; rfl)
      | cons d rest =>
          cases feed
          exact noPairInFirst rest isReturn rfl

theorem isBlank_of_mem_withLineFeeds {blanks : List Char}
    (blank : ∀ c ∈ blanks, isBlank c = true) : ∀ c ∈ withLineFeeds blanks, isBlank c = true := by
  fun_induction withLineFeeds blanks with
  | case1 => nofun
  | case2 rest induction =>
      obtain ⟨_, others⟩ := List.forall_mem_cons.mp blank
      obtain ⟨_, others⟩ := List.forall_mem_cons.mp others
      exact List.forall_mem_cons.mpr ⟨by decide, induction others⟩
  | case3 c rest _ induction =>
      obtain ⟨first, others⟩ := List.forall_mem_cons.mp blank
      refine List.forall_mem_cons.mpr ⟨?_, induction others⟩
      split
      · decide
      · exact first

/-! ## Quoted texts -/

theorem escapeQuotes_withLineFeeds (value : List Char) :
    escapeQuotes (withLineFeeds value) = withLineFeeds (escapeQuotes value) := by
  fun_induction withLineFeeds value with
  | case1 => rfl
  | case2 rest induction =>
      rw [escapeQuotes_cons (by decide), escapeQuotes_cons (by decide),
        escapeQuotes_cons (by decide), induction]
      rfl
  | case3 c rest noPair induction =>
      by_cases isQuote : c = '"'
      · subst isQuote
        rw [escapeQuotes_quote, withLineFeeds_cons_of_inLine (by decide),
          withLineFeeds_cons_of_inLine (by decide), ← induction]
        exact escapeQuotes_quote _
      · have noQuote : (if isLineBoundary c then '\n' else c) ≠ '"' := by
          split
          · decide
          · exact isQuote
        rw [escapeQuotes_cons noQuote, escapeQuotes_cons isQuote, induction, withLineFeeds]
        rintro after isReturn feed
        cases rest with
        | nil => cases feed
        | cons d rest =>
            unfold escapeQuotes at feed
            split at feed
            · cases feed
            · cases feed
              exact noPair rest isReturn rfl

theorem endsWithBackslash_withLineFeeds (value : List Char) :
    endsWithBackslash (withLineFeeds value) = endsWithBackslash value := by
  fun_induction withLineFeeds value with
  | case1 => rfl
  | case2 rest induction =>
      rw [endsWithBackslash_cons, induction, endsWithBackslash_cons, endsWithBackslash_cons]
      simp
  | case3 c rest _ induction =>
      have sameEmpty : (withLineFeeds rest).isEmpty = rest.isEmpty := by
        rw [Bool.eq_iff_iff, List.isEmpty_iff, List.isEmpty_iff, withLineFeeds_eq_nil_iff]
      have sameMark : ((if isLineBoundary c then '\n' else c) == '\\') = (c == '\\') := by
        split
        · rename_i boundary
          have noBackslash : c ≠ '\\' := by
            rintro rfl
            cases boundary
          rw [beq_eq_false_iff_ne.mpr noBackslash]
          rfl
        · rfl
      rw [endsWithBackslash_cons, endsWithBackslash_cons, induction, sameEmpty, sameMark]

end AgentFlow.Text
