import AgentFlow.Proofs.Text.Blank
import AgentFlow.Text.Lines

/-!
# Lines and their joints

Joining lines with line feeds and splitting the result gives the lines back, as long
as no line holds a boundary and the last one is not empty.  A text whose only
boundaries are line feeds is the joint of some lines.
-/

namespace AgentFlow.Text

/-- No character ends a line. -/
def IsLine (cs : List Char) : Prop :=
  ∀ c ∈ cs, isLineBoundary c = false

/-- Lines end at line feeds alone. -/
def OnlyNewlines (cs : List Char) : Prop :=
  ∀ c ∈ cs, isLineBoundary c = true → c = '\n'

theorem IsLine.ne_newline {line : List Char} (isLine : IsLine line) :
    ∀ c ∈ line, c ≠ '\n' := by
  rintro c member rfl
  have boundary := isLine _ member
  cases boundary

theorem IsLine.onlyNewlines {line : List Char} (isLine : IsLine line) : OnlyNewlines line := by
  intro c member boundary
  rw [isLine c member] at boundary
  cases boundary

theorem OnlyNewlines.append {first second : List Char} (firstOnly : OnlyNewlines first)
    (secondOnly : OnlyNewlines second) : OnlyNewlines (first ++ second) := by
  intro c member
  rcases List.mem_append.mp member with inFirst | inSecond
  · exact firstOnly c inFirst
  · exact secondOnly c inSecond

theorem OnlyNewlines.cons {c : Char} {rest : List Char}
    (firstOnly : isLineBoundary c = true → c = '\n') (restOnly : OnlyNewlines rest) :
    OnlyNewlines (c :: rest) := by
  intro d member
  rcases List.mem_cons.mp member with rfl | inRest
  · exact firstOnly
  · exact restOnly d inRest

theorem OnlyNewlines.subset {part whole : List Char} (wholeOnly : OnlyNewlines whole)
    (within : part ⊆ whole) : OnlyNewlines part :=
  fun c member => wholeOnly c (within member)

theorem isBlank_of_isLineBoundary {c : Char} (boundary : isLineBoundary c = true) :
    isBlank c = true := by
  simp only [isLineBoundary, Bool.or_eq_true, Bool.and_eq_true, decide_eq_true_eq,
    beq_iff_eq] at boundary
  simp only [isBlank, Bool.or_eq_true, Bool.and_eq_true, decide_eq_true_eq, beq_iff_eq]
  omega

theorem not_isLineBoundary_of_isIdentifierChar {c : Char} (inName : isIdentifierChar c = true) :
    isLineBoundary c = false := by
  rw [Bool.eq_false_iff]
  intro boundary
  have blank := isBlank_of_isLineBoundary boundary
  rw [not_isBlank_of_isIdentifierChar inName] at blank
  cases blank

/-! ## Splitting -/

theorem splitLines_newline (rest : List Char) :
    splitLines ('\n' :: rest) = [] :: splitLines rest := by
  rw [splitLines, if_pos (by decide)]
  rintro after ⟨⟩

theorem splitLines_cons {c : Char} (inLine : isLineBoundary c = false) (rest : List Char) :
    splitLines (c :: rest) = consLine c (splitLines rest) := by
  rw [splitLines, if_neg (by simp [inLine])]
  rintro after rfl
  cases inLine

theorem splitLines_line_append {line : List Char} (isLine : IsLine line) (rest : List Char) :
    splitLines (line ++ '\n' :: rest) = line :: splitLines rest := by
  induction line with
  | nil => exact splitLines_newline rest
  | cons c line induction =>
      have inLine : isLineBoundary c = false := isLine c List.mem_cons_self
      have isLineRest : IsLine line := fun d member => isLine d (List.mem_cons_of_mem c member)
      rw [List.cons_append, splitLines_cons inLine, induction isLineRest]
      rfl

theorem splitLines_line {line : List Char} (isLine : IsLine line) (nonempty : line ≠ []) :
    splitLines line = [line] := by
  induction line with
  | nil => exact absurd rfl nonempty
  | cons c line induction =>
      have inLine : isLineBoundary c = false := isLine c List.mem_cons_self
      have isLineRest : IsLine line := fun d member => isLine d (List.mem_cons_of_mem c member)
      rw [splitLines_cons inLine]
      cases line with
      | nil => rfl
      | cons d line =>
          rw [induction isLineRest (List.cons_ne_nil d line)]
          rfl

theorem isLine_of_mem_splitLines {cs : List Char} :
    ∀ line ∈ splitLines cs, IsLine line := by
  fun_induction splitLines cs with
  | case1 => nofun
  | case2 rest induction =>
      intro line member
      rcases List.mem_cons.mp member with rfl | inRest
      · exact nofun
      · exact induction line inRest
  | case3 c rest _ _ induction =>
      intro line member
      rcases List.mem_cons.mp member with rfl | inRest
      · exact nofun
      · exact induction line inRest
  | case4 c rest _ inLine induction =>
      have notBoundary : isLineBoundary c = false := by simpa using inLine
      intro line member
      cases lines : splitLines rest with
      | nil =>
          rw [lines] at member
          obtain rfl := List.mem_singleton.mp member
          intro d single
          obtain rfl := List.mem_singleton.mp single
          exact notBoundary
      | cons first others =>
          rw [lines] at member induction
          rcases List.mem_cons.mp member with rfl | inOthers
          · intro d inLine
            rcases List.mem_cons.mp inLine with rfl | inFirst
            · exact notBoundary
            · exact induction first List.mem_cons_self d inFirst
          · exact induction line (List.mem_cons_of_mem first inOthers)

/-- A text without carriage returns is read as it is stored. -/
theorem normalizeNewlines_eq_self {cs : List Char} (noReturn : ∀ c ∈ cs, c ≠ '\r') :
    normalizeNewlines cs = cs := by
  induction cs with
  | nil => rfl
  | cons c cs induction =>
      obtain ⟨noHead, noTail⟩ := List.forall_mem_cons.mp noReturn
      rw [normalizeNewlines, induction noTail]
      · exact fun _ same _ => noHead same
      · exact noHead

/-! ## Joining -/

theorem joinLines_cons {line : List Char} {lines : List (List Char)} (nonempty : lines ≠ []) :
    joinLines (line :: lines) = line ++ '\n' :: joinLines lines := by
  cases lines with
  | nil => exact absurd rfl nonempty
  | cons next lines => rfl

theorem joinLines_eq_intercalate (lines : List (List Char)) :
    joinLines lines = List.intercalate ['\n'] lines := by
  induction lines with
  | nil => rfl
  | cons line lines induction =>
      by_cases nonempty : lines = []
      · subst nonempty
        simp [joinLines]
      · rw [joinLines_cons nonempty, induction, List.intercalate_cons_of_ne_nil nonempty]
        simp

theorem toList_intercalate_newline (texts : List String) :
    (String.intercalate "\n" texts).toList = joinLines (texts.map String.toList) := by
  rw [String.toList_intercalate, joinLines_eq_intercalate]
  rfl

theorem onlyNewlines_joinLines {texts : List (List Char)}
    (areTexts : ∀ text ∈ texts, OnlyNewlines text) : OnlyNewlines (joinLines texts) := by
  induction texts with
  | nil => exact nofun
  | cons text texts induction =>
      obtain ⟨first, others⟩ := List.forall_mem_cons.mp areTexts
      by_cases nonempty : texts = []
      · subst nonempty
        exact first
      · rw [joinLines_cons nonempty]
        exact first.append (.cons (fun _ => rfl) (induction others))

theorem splitLines_joinLines_append {lines : List (List Char)}
    (areLines : ∀ line ∈ lines, IsLine line) (nonempty : lines ≠ []) (rest : List Char) :
    splitLines (joinLines lines ++ '\n' :: rest) = lines ++ splitLines rest := by
  induction lines with
  | nil => exact absurd rfl nonempty
  | cons line lines induction =>
      obtain ⟨isLine, others⟩ := List.forall_mem_cons.mp areLines
      by_cases more : lines = []
      · subst more
        exact splitLines_line_append isLine rest
      · rw [joinLines_cons more, List.append_assoc, List.cons_append,
          splitLines_line_append isLine, induction others more, List.cons_append]

theorem splitLines_joinLines {lines : List (List Char)}
    (areLines : ∀ line ∈ lines, IsLine line) (nonempty : joinLines lines ≠ [])
    (complete : (joinLines lines).getLast? ≠ some '\n') :
    splitLines (joinLines lines) = lines := by
  induction lines with
  | nil => exact absurd rfl nonempty
  | cons line lines induction =>
      obtain ⟨isLine, others⟩ := List.forall_mem_cons.mp areLines
      by_cases more : lines = []
      · subst more
        exact splitLines_line isLine nonempty
      · rw [joinLines_cons more] at complete ⊢
        have lastNonempty : joinLines lines ≠ [] := by
          intro empty
          rw [empty] at complete
          simp at complete
        have lastComplete : (joinLines lines).getLast? ≠ some '\n' := by
          rwa [List.getLast?_append_of_ne_nil _ (List.cons_ne_nil _ _),
            List.getLast?_cons_of_ne_nil lastNonempty] at complete
        rw [splitLines_line_append isLine, induction others lastNonempty lastComplete]

/-- A text that has only line feeds for boundaries is the joint of its lines. -/
theorem exists_lines {cs : List Char} (only : OnlyNewlines cs) :
    ∃ lines, lines ≠ [] ∧ (∀ line ∈ lines, IsLine line) ∧ joinLines lines = cs := by
  induction cs with
  | nil => exact ⟨[[]], by simp, by simp [IsLine], rfl⟩
  | cons c cs induction =>
      obtain ⟨first, others⟩ := List.forall_mem_cons.mp only
      obtain ⟨lines, nonempty, areLines, joined⟩ := induction others
      cases boundary : isLineBoundary c with
      | true =>
          obtain rfl := first boundary
          refine ⟨[] :: lines, by simp, ?_, by rw [joinLines_cons nonempty, joined]; rfl⟩
          exact List.forall_mem_cons.mpr ⟨nofun, areLines⟩
      | false =>
          obtain ⟨line, lines, rfl⟩ := List.exists_cons_of_ne_nil nonempty
          obtain ⟨isLine, otherLines⟩ := List.forall_mem_cons.mp areLines
          refine ⟨(c :: line) :: lines, by simp, ?_, ?_⟩
          · refine List.forall_mem_cons.mpr ⟨?_, otherLines⟩
            exact List.forall_mem_cons.mpr ⟨boundary, isLine⟩
          · rw [← joined]
            cases lines <;> rfl

end AgentFlow.Text
