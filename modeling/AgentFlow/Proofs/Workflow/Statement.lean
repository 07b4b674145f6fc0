import AgentFlow.Proofs.Text.Blank
import AgentFlow.Proofs.Text.Lines
import AgentFlow.Workflow.Statement

/-!
# Statements and their boundaries

The scanner closes a statement at the first line end at which nothing is open.
`OpenAtBreaks` says of one text that this does not happen inside of it, so that a text
which also starts as a statement does is found again as one statement, wherever it
stands among others.
-/

namespace AgentFlow.Statement

open AgentFlow.Text

namespace ScanState

/-! ## Scanning -/

/-- A character that opens, closes and escapes nothing. -/
def isInert (c : Char) : Bool :=
  c != '"' && c != '{' && c != '}' && c != '\\'

theorem isInert_of_isBlank {c : Char} (blank : isBlank c = true) : isInert c = true := by
  simp only [isInert, Bool.and_eq_true, bne_iff_ne, ne_eq]
  refine ⟨⟨⟨?_, ?_⟩, ?_⟩, ?_⟩
  all_goals
    rintro rfl
    cases blank

theorem isInert_of_isIdentifierChar {c : Char} (inName : isIdentifierChar c = true) :
    isInert c = true := by
  simp only [isInert, Bool.and_eq_true, bne_iff_ne, ne_eq]
  refine ⟨⟨⟨?_, ?_⟩, ?_⟩, ?_⟩
  all_goals
    rintro rfl
    cases inName

theorem step_of_isInert {c : Char} (inert : isInert c = true) (state : ScanState)
    (escaped : Bool) : state.step escaped c = state := by
  simp only [isInert, Bool.and_eq_true, bne_iff_ne, ne_eq] at inert
  simp [step, inert]

theorem scan_append_newline (state : ScanState) (escaped : Bool) (line rest : List Char) :
    state.scan escaped (line ++ '\n' :: rest) = (state.scan escaped line).scan false rest := by
  induction line generalizing state escaped with
  | nil => simp [scan, step_of_isInert (c := '\n') (by decide)]
  | cons c line induction => exact induction _ _

theorem beq_backslash_of_isInert {c : Char} (inert : isInert c = true) : (c == '\\') = false := by
  simp only [isInert, Bool.and_eq_true, bne_iff_ne, ne_eq] at inert
  simpa using inert.2

theorem scan_of_isInert {inert : List Char} (allInert : ∀ c ∈ inert, isInert c = true)
    (state : ScanState) (escaped : Bool) : state.scan escaped inert = state := by
  induction inert generalizing escaped with
  | nil => rfl
  | cons c inert induction =>
      obtain ⟨first, others⟩ := List.forall_mem_cons.mp allInert
      rw [scan, step_of_isInert first, induction others]

theorem scan_isInert_append {inert : List Char} (allInert : ∀ c ∈ inert, isInert c = true)
    (state : ScanState) (rest : List Char) :
    state.scan false (inert ++ rest) = state.scan false rest := by
  induction inert with
  | nil => rfl
  | cons c inert induction =>
      obtain ⟨first, others⟩ := List.forall_mem_cons.mp allInert
      rw [List.cons_append, scan, step_of_isInert first, beq_backslash_of_isInert first,
        induction others]

theorem scan_append_isInert {inert : List Char} (allInert : ∀ c ∈ inert, isInert c = true)
    (state : ScanState) (escaped : Bool) (cs : List Char) :
    state.scan escaped (cs ++ inert) = state.scan escaped cs := by
  induction cs generalizing state escaped with
  | nil => exact scan_of_isInert allInert state escaped
  | cons c cs induction => exact induction _ _

/-- At every line feed of the text something is open. -/
def OpenAtBreaks (state : ScanState) (escaped : Bool) : List Char → Prop
  | [] => True
  | c :: rest =>
    (c = '\n' → state.isClosed = false) ∧ OpenAtBreaks (state.step escaped c) (c == '\\') rest

theorem openAtBreaks_append_newline {state : ScanState} {escaped : Bool} {line rest : List Char} :
    OpenAtBreaks state escaped (line ++ '\n' :: rest) ↔
      OpenAtBreaks state escaped line ∧ (state.scan escaped line).isClosed = false ∧
        OpenAtBreaks (state.scan escaped line) false rest := by
  induction line generalizing state escaped with
  | nil => simp [OpenAtBreaks, scan, step_of_isInert (c := '\n') (by decide)]
  | cons c line induction => simp [OpenAtBreaks, scan, induction, and_assoc]

theorem openAtBreaks_of_isLine {line : List Char} (isLine : IsLine line) (state : ScanState)
    (escaped : Bool) : OpenAtBreaks state escaped line := by
  induction line generalizing state escaped with
  | nil => trivial
  | cons c line induction =>
      have noBreak := isLine.ne_newline c List.mem_cons_self
      exact ⟨fun same => absurd same noBreak,
        induction (fun d member => isLine d (List.mem_cons_of_mem c member)) _ _⟩

theorem OpenAtBreaks.append_isLine {state : ScanState} {escaped : Bool} {cs line : List Char}
    (unbroken : OpenAtBreaks state escaped cs) (isLine : IsLine line) :
    OpenAtBreaks state escaped (cs ++ line) := by
  induction cs generalizing state escaped with
  | nil => exact openAtBreaks_of_isLine isLine state escaped
  | cons c cs induction => exact ⟨unbroken.1, induction unbroken.2⟩

theorem OpenAtBreaks.of_append {state : ScanState} {escaped : Bool} {cs back : List Char}
    (whole : OpenAtBreaks state escaped (cs ++ back)) : OpenAtBreaks state escaped cs := by
  induction cs generalizing state escaped with
  | nil => trivial
  | cons c cs induction => exact ⟨whole.1, induction whole.2⟩

theorem OpenAtBreaks.of_isInert_append {state : ScanState} {inert cs : List Char}
    (allInert : ∀ c ∈ inert, isInert c = true)
    (whole : OpenAtBreaks state false (inert ++ cs)) : OpenAtBreaks state false cs := by
  induction inert with
  | nil => exact whole
  | cons c inert induction =>
      obtain ⟨first, others⟩ := List.forall_mem_cons.mp allInert
      have tail := whole.2
      rw [step_of_isInert first, beq_backslash_of_isInert first] at tail
      exact induction others tail

end ScanState

/-! ## Runs of lines -/

open ScanState

/-- A text that closes at its end and not before is one run. -/
theorem takeRun_append_of_isClosed {lines : List (List Char)} {state : ScanState}
    (areLines : ∀ line ∈ lines, IsLine line) (nonempty : lines ≠ [])
    (unbroken : OpenAtBreaks state false (joinLines lines))
    (closes : (state.scan false (joinLines lines)).isClosed = true) (rest : List (List Char)) :
    takeRun state (lines ++ rest) = (lines, rest) := by
  induction lines generalizing state with
  | nil => exact absurd rfl nonempty
  | cons line lines induction =>
      obtain ⟨isLine, others⟩ := List.forall_mem_cons.mp areLines
      by_cases more : lines = []
      · subst more
        simp only [joinLines] at closes
        simp [takeRun, closes]
      · rw [joinLines_cons more] at unbroken closes
        rw [scan_append_newline] at closes
        obtain ⟨_, openAtEnd, unbrokenRest⟩ := openAtBreaks_append_newline.mp unbroken
        simp [takeRun, openAtEnd, induction others more unbrokenRest closes]

/-- A text that never closes runs to the end. -/
theorem takeRun_of_not_isClosed {lines : List (List Char)} {state : ScanState}
    (areLines : ∀ line ∈ lines, IsLine line)
    (unbroken : OpenAtBreaks state false (joinLines lines))
    (remainsOpen : (state.scan false (joinLines lines)).isClosed = false) :
    takeRun state lines = (lines, []) := by
  induction lines generalizing state with
  | nil => rfl
  | cons line lines induction =>
      obtain ⟨isLine, others⟩ := List.forall_mem_cons.mp areLines
      by_cases more : lines = []
      · subst more
        simp only [joinLines] at remainsOpen
        simp [takeRun, remainsOpen]
      · rw [joinLines_cons more] at unbroken remainsOpen
        rw [scan_append_newline] at remainsOpen
        obtain ⟨_, openAtEnd, unbrokenRest⟩ := openAtBreaks_append_newline.mp unbroken
        simp [takeRun, openAtEnd, induction others unbrokenRest remainsOpen]

/-- A run is broken nowhere, and it is closed at its end unless it takes all lines. -/
theorem takeRun_spec {lines run rest : List (List Char)} {state : ScanState}
    (areLines : ∀ line ∈ lines, IsLine line) (taken : takeRun state lines = (run, rest)) :
    OpenAtBreaks state false (joinLines run) ∧
      ((state.scan false (joinLines run)).isClosed = true ∨ rest = []) := by
  induction lines generalizing state run with
  | nil =>
      cases taken
      exact ⟨trivial, .inr rfl⟩
  | cons line lines induction =>
      obtain ⟨isLine, others⟩ := List.forall_mem_cons.mp areLines
      unfold takeRun at taken
      dsimp only at taken
      split at taken
      · rename_i closed
        cases taken
        exact ⟨openAtBreaks_of_isLine isLine _ _, .inl closed⟩
      · rename_i notClosed
        have openAtEnd := Bool.eq_false_iff.mpr notClosed
        cases taken
        obtain ⟨unbroken, closes⟩ := induction others rfl
        by_cases more : (takeRun (state.scan false line) lines).1 = []
        · rw [more] at closes ⊢
          refine ⟨openAtBreaks_of_isLine isLine _ _, .inr ?_⟩
          rcases closes with closed | noRest
          · simp only [joinLines, scan] at closed
            exact absurd closed notClosed
          · exact noRest
        · rw [joinLines_cons more, scan_append_newline, openAtBreaks_append_newline]
          exact ⟨⟨openAtBreaks_of_isLine isLine _ _, openAtEnd, unbroken⟩, closes⟩

/-! ## Texts of statements -/

/-- The text is found as one statement wherever a line starts with it. -/
structure StandsAlone (text : List Char) : Prop where
  trimmed : IsTrimmed text
  starts : ∃ c, text.head? = some c ∧ c ≠ '#'
  onlyNewlines : OnlyNewlines text
  unbroken : OpenAtBreaks .closed false text

/-- Nothing is open at the end of the text. -/
def Closes (text : List Char) : Prop :=
  (ScanState.closed.scan false text).isClosed = true

/-- Texts that stand below one another and are told apart again: only the last one may
be left open. -/
inductive Separable : List (List Char) → Prop where
  | nil : Separable []
  | last {text : List Char} : StandsAlone text → Separable [text]
  | cons {text : List Char} {texts : List (List Char)} :
      StandsAlone text → Closes text → Separable texts → Separable (text :: texts)

namespace Separable

theorem tail {text : List Char} {texts : List (List Char)} (separable : Separable (text :: texts)) :
    Separable texts := by
  cases separable with
  | last _ => exact .nil
  | cons _ _ rest => exact rest

theorem closes_or_last {text : List Char} {texts : List (List Char)}
    (separable : Separable (text :: texts)) : Closes text ∨ texts = [] := by
  cases separable with
  | last _ => exact .inr rfl
  | cons _ closes _ => exact .inl closes

theorem ofClosesOrLast {text : List Char} {texts : List (List Char)}
    (standsAlone : StandsAlone text) (closesOrLast : Closes text ∨ texts = [])
    (separable : Separable texts) : Separable (text :: texts) := by
  rcases closesOrLast with closes | rfl
  · exact .cons standsAlone closes separable
  · exact .last standsAlone

theorem standsAlone {texts : List (List Char)} (separable : Separable texts) :
    ∀ text ∈ texts, StandsAlone text := by
  induction separable with
  | nil => nofun
  | last standsAlone => simpa using standsAlone
  | cons standsAlone _ _ induction => exact List.forall_mem_cons.mpr ⟨standsAlone, induction⟩

theorem sublist {texts fewer : List (List Char)} (within : fewer.Sublist texts)
    (separable : Separable texts) : Separable fewer := by
  induction within with
  | slnil => exact .nil
  | cons text _ induction => exact induction separable.tail
  | @cons_cons fewer texts text within induction =>
      have separableFewer := induction separable.tail
      cases separable with
      | last standsAlone =>
          obtain rfl := List.sublist_nil.mp within
          exact .last standsAlone
      | cons standsAlone closes _ => exact .cons standsAlone closes separableFewer

end Separable

theorem exists_cons_of_takeRun {state : ScanState} {line : List Char}
    {lines run rest : List (List Char)} (taken : takeRun state (line :: lines) = (run, rest)) :
    ∃ others, run = line :: others := by
  unfold takeRun at taken
  dsimp only at taken
  split at taken
  · cases taken
    exact ⟨[], rfl⟩
  · cases taken
    exact ⟨_, rfl⟩

theorem exists_joinLines_cons (line : List Char) (others : List (List Char)) :
    ∃ rest, joinLines (line :: others) = line ++ rest := by
  by_cases more : others = []
  · subst more
    exact ⟨[], (List.append_nil line).symm⟩
  · exact ⟨_, joinLines_cons more⟩

theorem head?_trim_joinLines_cons {line : List Char} {c : Char}
    (first : (trim line).head? = some c) (others : List (List Char)) :
    (trim (joinLines (line :: others))).head? = some c := by
  obtain ⟨rest, joined⟩ := exists_joinLines_cons line others
  rw [head?_trim] at first
  rw [joined, head?_trim, List.find?_append, first, Option.some_or]

theorem isSkipped_eq (line : List Char) :
    isSkipped line = ((trim line).head?.all (· == '#')) := by
  unfold isSkipped
  cases trim line <;> rfl

theorem starts_of_not_isSkipped {line : List Char} (starts : isSkipped line = false) :
    ∃ c, (trim line).head? = some c ∧ c ≠ '#' := by
  rw [isSkipped_eq] at starts
  cases first : (trim line).head? with
  | none => simp [first] at starts
  | some c =>
      rw [first] at starts
      exact ⟨c, rfl, by simpa using starts⟩

/-- The text of a run that starts at a line that is not skipped. -/
theorem standsAlone_of_takeRun {line : List Char} {lines run rest : List (List Char)}
    (areLines : ∀ l ∈ line :: lines, IsLine l) (starts : isSkipped line = false)
    (taken : takeRun .closed (line :: lines) = (run, rest)) :
    StandsAlone (trim (joinLines run)) ∧ (Closes (trim (joinLines run)) ∨ rest = []) := by
  obtain ⟨unbroken, closes⟩ := takeRun_spec areLines taken
  obtain ⟨front, back, whole, blankFront, blankBack⟩ := exists_trim_append (joinLines run)
  have inertFront : ∀ c ∈ front, ScanState.isInert c = true :=
    fun c member => isInert_of_isBlank (blankFront c member)
  have inertBack : ∀ c ∈ back, ScanState.isInert c = true :=
    fun c member => isInert_of_isBlank (blankBack c member)
  have sameState : ∀ state : ScanState, state.scan false (joinLines run) =
      state.scan false (trim (joinLines run)) := by
    intro state
    conv => lhs; rw [whole]
    rw [scan_append_isInert inertBack, scan_isInert_append inertFront]
  refine ⟨⟨isTrimmed_trim _, ?_, ?_, ?_⟩, ?_⟩
  · obtain ⟨c, first, noComment⟩ := starts_of_not_isSkipped starts
    obtain ⟨others, rfl⟩ := exists_cons_of_takeRun taken
    exact ⟨c, head?_trim_joinLines_cons first others, noComment⟩
  · refine (onlyNewlines_joinLines ?_).subset (trim_subset _)
    intro l member
    refine (areLines l ?_).onlyNewlines
    have all := takeRun_append .closed (line :: lines)
    rw [taken] at all
    rw [← all]
    exact List.mem_append_left rest member
  · rw [whole] at unbroken
    exact (unbroken.of_append).of_isInert_append inertFront
  · rwa [sameState] at closes

/-- The texts of the statements of a source can be told apart again. -/
theorem separable_ofLines {number : Nat} {lines : List (List Char)}
    (areLines : ∀ line ∈ lines, IsLine line) :
    Separable ((ofLines number lines).map (·.text.toList)) := by
  fun_induction ofLines number lines with
  | case1 => exact .nil
  | case2 number line lines skipped induction =>
      exact induction (List.forall_mem_cons.mp areLines).2
  | case3 number line lines starts run induction =>
      obtain ⟨standsAlone, closes⟩ :=
        standsAlone_of_takeRun areLines (Bool.eq_false_iff.mpr starts) rfl
      have restLines : ∀ l ∈ run.2, IsLine l := by
        intro l member
        apply areLines
        rw [← takeRun_append .closed (line :: lines)]
        exact List.mem_append_right _ member
      have separable := induction restLines
      simp only [List.map_cons, runText, String.toList_ofList]
      refine .ofClosesOrLast standsAlone (closes.imp_right ?_) separable
      intro noRest
      rw [show run.2 = [] from noRest, ofLines]
      rfl

theorem separable_split (source : String) :
    Separable ((split source).map (·.text.toList)) :=
  separable_ofLines isLine_of_mem_splitLines

theorem expansion_of_mem_ofLines {number : Nat} {lines : List (List Char)} :
    ∀ statement ∈ ofLines number lines, statement.expansion = none := by
  fun_induction ofLines number lines with
  | case1 => nofun
  | case2 number line lines skipped induction => exact induction
  | case3 number line lines starts run induction =>
      exact List.forall_mem_cons.mpr ⟨rfl, induction⟩

theorem StandsAlone.ne_nil {text : List Char} (standsAlone : StandsAlone text) : text ≠ [] := by
  obtain ⟨c, first, _⟩ := standsAlone.starts
  rintro rfl
  cases first

theorem not_isSkipped_of_joinLines {text blanks line : List Char} {others : List (List Char)}
    (standsAlone : StandsAlone text) (joined : joinLines (line :: others) = text ++ blanks) :
    isSkipped line = false := by
  obtain ⟨c, first, noComment⟩ := standsAlone.starts
  have noBlank := standsAlone.trimmed.first c first
  have firstJoined : (joinLines (line :: others)).head? = some c := by
    rw [joined, List.head?_append_of_ne_nil _ standsAlone.ne_nil, first]
  cases line with
  | nil =>
      cases others with
      | nil => cases firstJoined
      | cons next others =>
          cases firstJoined
          cases noBlank
  | cons d line =>
      have sameFirst : d = c := by
        obtain ⟨rest, split⟩ := exists_joinLines_cons (d :: line) others
        rw [split] at firstJoined
        simpa using firstJoined
      subst sameFirst
      rw [isSkipped_eq, head?_trim]
      simp [noBlank, noComment]

/-- The lines of a text that stands alone are found as one statement, also with blanks
behind it on its last line. -/
theorem ofLines_append_blank {text blanks : List Char} {lines rest : List (List Char)}
    (areLines : ∀ line ∈ lines, IsLine line) (standsAlone : StandsAlone text)
    (joined : joinLines lines = text ++ blanks) (isLineBlanks : IsLine blanks)
    (blank : ∀ c ∈ blanks, isBlank c = true) (closes : Closes text ∨ rest = []) (number : Nat) :
    ofLines number (lines ++ rest) =
      ⟨String.ofList text, number, none⟩ :: ofLines (number + lines.length) rest := by
  cases lines with
  | nil => exact absurd (List.append_eq_nil_iff.mp joined.symm).1 standsAlone.ne_nil
  | cons line others =>
      have inert : ∀ c ∈ blanks, isInert c = true :=
        fun c member => isInert_of_isBlank (blank c member)
      have unbroken : OpenAtBreaks .closed false (joinLines (line :: others)) := by
        rw [joined]
        exact standsAlone.unbroken.append_isLine isLineBlanks
      have sameState : ScanState.closed.scan false (joinLines (line :: others)) =
          ScanState.closed.scan false text := by
        rw [joined, scan_append_isInert inert]
      have taken : takeRun .closed (line :: others ++ rest) = (line :: others, rest) := by
        cases closed : (ScanState.closed.scan false text).isClosed with
        | true =>
            refine takeRun_append_of_isClosed areLines (List.cons_ne_nil line others) unbroken ?_ rest
            rw [sameState, closed]
        | false =>
            rcases closes with closes | noRest
            · rw [Closes, closed] at closes
              cases closes
            · subst noRest
              rw [List.append_nil]
              refine takeRun_of_not_isClosed areLines unbroken ?_
              rw [sameState, closed]
      have starts := not_isSkipped_of_joinLines standsAlone joined
      rw [List.cons_append] at taken ⊢
      rw [ofLines, if_neg (by simp [starts])]
      simp only [taken, runText, joined,
        trim_append_of_isBlank standsAlone.trimmed standsAlone.ne_nil blank]

/-- The lines of a text that stands alone are found as one statement. -/
theorem ofLines_append {lines rest : List (List Char)} (areLines : ∀ line ∈ lines, IsLine line)
    (standsAlone : StandsAlone (joinLines lines)) (closes : Closes (joinLines lines) ∨ rest = [])
    (number : Nat) :
    ofLines number (lines ++ rest) =
      ⟨String.ofList (joinLines lines), number, none⟩ :: ofLines (number + lines.length) rest :=
  ofLines_append_blank areLines standsAlone (List.append_nil _).symm
    (List.forall_mem_nil _) (List.forall_mem_nil _) closes number

theorem splitLines_joinLines_of_standsAlone {lines : List (List Char)}
    (areLines : ∀ line ∈ lines, IsLine line) (standsAlone : StandsAlone (joinLines lines)) :
    splitLines (joinLines lines) = lines := by
  obtain ⟨c, first, _⟩ := standsAlone.starts
  apply splitLines_joinLines areLines
  · intro empty
    rw [empty] at first
    cases first
  · intro newlineLast
    have noBlank := standsAlone.trimmed.last _ newlineLast
    cases noBlank

theorem length_eq_count_newline {lines : List (List Char)} (areLines : ∀ line ∈ lines, IsLine line)
    (nonempty : lines ≠ []) : lines.length = (joinLines lines).count '\n' + 1 := by
  induction lines with
  | nil => exact absurd rfl nonempty
  | cons line lines induction =>
      obtain ⟨isLine, others⟩ := List.forall_mem_cons.mp areLines
      have noBreak : line.count '\n' = 0 :=
        List.count_eq_zero.mpr fun member => isLine.ne_newline _ member rfl
      by_cases more : lines = []
      · subst more
        simp [joinLines, noBreak]
      · rw [joinLines_cons more, List.length_cons, induction others more]
        simp [noBreak]

/-- The first of several texts is found as one statement, on as many lines as it has. -/
theorem ofLines_joinLines_cons {text : List Char} {texts : List (List Char)}
    (standsAlone : StandsAlone text) (closes : Closes text ∨ texts = []) (number : Nat) :
    ofLines number (splitLines (joinLines (text :: texts))) =
      ⟨String.ofList text, number, none⟩ ::
        ofLines (number + (text.count '\n' + 1)) (splitLines (joinLines texts)) := by
  obtain ⟨lines, nonempty, areLines, rfl⟩ := exists_lines standsAlone.onlyNewlines
  rw [← length_eq_count_newline areLines nonempty]
  by_cases more : texts = []
  · subst more
    have found := ofLines_append areLines standsAlone (.inr rfl) number
    rw [List.append_nil] at found
    show ofLines number (splitLines (joinLines lines)) = _
    rw [splitLines_joinLines_of_standsAlone areLines standsAlone, found]
    rfl
  · have closed := closes.resolve_right more
    rw [joinLines_cons more, splitLines_joinLines_append areLines nonempty,
      ofLines_append areLines standsAlone (.inl closed)]

/-- Texts that can be told apart are told apart. -/
theorem text_ofLines_joinLines {texts : List (List Char)} (separable : Separable texts)
    (number : Nat) :
    (ofLines number (splitLines (joinLines texts))).map (·.text) = texts.map String.ofList := by
  induction texts generalizing number with
  | nil => simp [joinLines, splitLines, ofLines]
  | cons text texts induction =>
      have standsAlone := separable.standsAlone text List.mem_cons_self
      rw [ofLines_joinLines_cons standsAlone separable.closes_or_last]
      simp [induction separable.tail]

end AgentFlow.Statement
