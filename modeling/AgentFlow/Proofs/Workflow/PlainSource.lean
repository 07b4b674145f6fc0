import AgentFlow.Proofs.Text.LineEnds
import AgentFlow.Proofs.Workflow.Expansion
import AgentFlow.Proofs.Workflow.Invocation

/-!
# Sources that are one invocation

A source that reads as an invocation is one statement, wherever its instruction breaks a
line, and expansion has nothing to do with it.  But the statement is put together from
the lines of the source, so its instruction has a line feed for each of its line ends.
-/

namespace AgentFlow

open AgentFlow.Text

namespace Statement

open ScanState

/-! ## Blanks around a statement -/

theorem trim_cons_of_isBlank {c : Char} (blank : isBlank c = true) (cs : List Char) :
    trim (c :: cs) = trim cs := by
  simp [trim, trimStart, blank]

/-- A blank in front of the first line belongs to no statement. -/
theorem ofLines_consLine {c : Char} (blank : isBlank c = true) (number : Nat)
    (lines : List (List Char)) : ofLines number (consLine c lines) = ofLines number lines := by
  have onlyBlank : isSkipped [c] = true := by simp [isSkipped_eq, head?_trim, blank]
  cases lines with
  | nil => simp [consLine, ofLines, onlyBlank]
  | cons line lines =>
      have sameStart : isSkipped (c :: line) = isSkipped line := by
        rw [isSkipped_eq, isSkipped_eq, trim_cons_of_isBlank blank]
      have sameScan : ScanState.closed.scan false (c :: line) =
          ScanState.closed.scan false line := by
        have inert := isInert_of_isBlank blank
        rw [scan, step_of_isInert inert, beq_backslash_of_isInert inert]
      rw [consLine, ofLines, ofLines, sameStart]
      split
      · rfl
      · have sameText : ∀ run, runText ((c :: line) :: run) = runText (line :: run) := by
          intro run
          unfold runText
          cases run with
          | nil => rw [joinLines, joinLines, trim_cons_of_isBlank blank]
          | cons next run =>
              rw [joinLines_cons (List.cons_ne_nil next run),
                joinLines_cons (List.cons_ne_nil next run), List.cons_append,
                trim_cons_of_isBlank blank]
        unfold takeRun
        rw [sameScan]
        dsimp only
        split <;> simp [sameText]

/-- Blanks in front of a text only move its statements down. -/
theorem ofLines_blank_append {blanks : List Char} (blank : ∀ c ∈ blanks, isBlank c = true)
    (only : OnlyNewlines blanks) (number : Nat) (rest : List Char) :
    ofLines number (splitLines (blanks ++ rest)) =
      ofLines (number + blanks.count '\n') (splitLines rest) := by
  induction blanks generalizing number with
  | nil => rfl
  | cons c blanks induction =>
      obtain ⟨isBlankFirst, othersBlank⟩ := List.forall_mem_cons.mp blank
      obtain ⟨first, othersOnly⟩ := List.forall_mem_cons.mp only
      cases boundary : isLineBoundary c with
      | true =>
          obtain rfl := first boundary
          have skipped : isSkipped [] = true := rfl
          rw [List.cons_append, splitLines_newline, ofLines, if_pos skipped,
            induction othersBlank othersOnly, List.count_cons_self, Nat.add_assoc,
            Nat.add_comm 1]
      | false =>
          have noFeed : c ≠ '\n' := by
            rintro rfl
            cases boundary
          rw [List.cons_append, splitLines_cons boundary, ofLines_consLine isBlankFirst,
            induction othersBlank othersOnly, List.count_cons_of_ne noFeed]

theorem ofLines_blank {blanks : List Char} (blank : ∀ c ∈ blanks, isBlank c = true)
    (only : OnlyNewlines blanks) (number : Nat) : ofLines number (splitLines blanks) = [] := by
  have skipped := ofLines_blank_append blank only number []
  rw [List.append_nil] at skipped
  rw [skipped, splitLines, ofLines]

/-- A text that stands alone is one statement, with blank lines behind it. -/
theorem ofLines_standsAlone_append {text blanks : List Char} (standsAlone : StandsAlone text)
    (closes : Closes text) (blank : ∀ c ∈ blanks, isBlank c = true) (only : OnlyNewlines blanks)
    (number : Nat) :
    ofLines number (splitLines (text ++ blanks)) = [⟨String.ofList text, number, none⟩] := by
  obtain ⟨blankLines, someBlankLine, areBlankLines, rfl⟩ := exists_lines only
  obtain ⟨ending, others, rfl⟩ := List.exists_cons_of_ne_nil someBlankLine
  obtain ⟨isLineEnding, areOthers⟩ := List.forall_mem_cons.mp areBlankLines
  have blankEnding : ∀ c ∈ ending, isBlank c = true := by
    intro c member
    obtain ⟨rest, joined⟩ := exists_joinLines_cons ending others
    exact blank c (by rw [joined]; exact List.mem_append_left rest member)
  obtain ⟨lines, someLine, areLines, joined⟩ :=
    exists_lines (standsAlone.onlyNewlines.append isLineEnding.onlyNewlines)
  by_cases more : others = []
  · subst more
    have nonempty : joinLines lines ≠ [] := by
      rw [joined]
      exact List.append_ne_nil_of_left_ne_nil standsAlone.ne_nil ending
    have complete : (joinLines lines).getLast? ≠ some '\n' := by
      rw [joined]
      intro newlineLast
      by_cases noEnding : ending = []
      · rw [noEnding, List.append_nil] at newlineLast
        cases standsAlone.trimmed.last '\n' newlineLast
      · rw [List.getLast?_append_of_ne_nil _ noEnding] at newlineLast
        exact isLineEnding.ne_newline _ (List.mem_of_getLast? newlineLast) rfl
    have found := @ofLines_append_blank _ _ _ [] areLines standsAlone joined isLineEnding
      blankEnding (.inl closes) number
    rw [List.append_nil] at found
    show ofLines number (splitLines (text ++ ending)) = _
    rw [← joined, splitLines_joinLines areLines nonempty complete, found, ofLines]
  · have blankOthers : ∀ c ∈ joinLines others, isBlank c = true := by
      intro c member
      apply blank
      rw [joinLines_cons more]
      exact List.mem_append_right ending (List.mem_cons_of_mem _ member)
    have onlyOthers : OnlyNewlines (joinLines others) :=
      onlyNewlines_joinLines fun line member => (areOthers line member).onlyNewlines
    rw [joinLines_cons more, ← List.append_assoc, ← joined,
      splitLines_joinLines_append areLines someLine,
      ofLines_append_blank areLines standsAlone joined isLineEnding blankEnding (.inl closes),
      ofLines_blank blankOthers onlyOthers]

end Statement

/-! ## Line ends of invocations -/

namespace CallForm

/-- A written form breaks its lines inside of its body alone. -/
theorem withLineFeeds_chars_append {form : CallForm} (wellFormed : form.WellFormed)
    (rest : List Char) :
    withLineFeeds (form.chars ++ rest) =
      chars { form with body := withLineFeeds form.body } ++ withLineFeeds rest := by
  have quoteInLine : isLineBoundary '"' = false := by decide
  have noPair : ('"' :: (outputChars form.output ++ rest)).head? ≠ some '\n' := by simp
  have split : form.chars ++ rest = (form.name ++ [':']) ++ '"' ::
      (form.body ++ '"' :: (outputChars form.output ++ rest)) := by
    simp [chars]
  rw [split, withLineFeeds_line_append (isLine_lead wellFormed),
    withLineFeeds_cons_of_inLine quoteInLine, withLineFeeds_append form.body noPair,
    withLineFeeds_cons_of_inLine quoteInLine,
    withLineFeeds_line_append (isLine_outputChars wellFormed)]
  simp [chars]

end CallForm

namespace Invocation

/-- The invocation with a line feed for each line end of its instruction. -/
def withLineFeeds (invocation : Invocation) : Invocation where
  agentName := invocation.agentName
  instruction := String.ofList (Text.withLineFeeds invocation.instruction.toList)
  output := invocation.output
  agentName_isIdentifier := invocation.agentName_isIdentifier
  instruction_ne_empty := by
    intro empty
    apply toList_ne_nil invocation.instruction_ne_empty
    rw [← withLineFeeds_eq_nil_iff]
    simpa using empty
  output_isIdentifier := invocation.output_isIdentifier

variable {invocation : Invocation}

theorem form_withLineFeeds (invocation : Invocation) :
    invocation.withLineFeeds.form =
      { invocation.form with body := Text.withLineFeeds invocation.form.body } := by
  simp [withLineFeeds, form, escapeQuotes_withLineFeeds]

theorem withLineFeeds_eq_self_iff :
    invocation.withLineFeeds = invocation ↔ OnlyNewlines invocation.instruction.toList := by
  rw [← Text.withLineFeeds_eq_self_iff]
  obtain ⟨agentName, instruction, output, _, _, _⟩ := invocation
  simp [withLineFeeds, ← String.toList_inj]

theorem endsWithBackslash_instruction_withLineFeeds
    (complete : endsWithBackslash invocation.instruction.toList = false) :
    endsWithBackslash invocation.withLineFeeds.instruction.toList = false := by
  rwa [withLineFeeds, String.toList_ofList, endsWithBackslash_withLineFeeds]

end Invocation

/-! ## Expansion -/

namespace Expanded

variable {source : String} {invocation : Invocation}

/-- A source that reads as an invocation is one statement. -/
theorem split_of_parse (parsed : Invocation.parse source = .ok invocation) :
    ∃ line, Statement.split source =
      [⟨String.ofList invocation.withLineFeeds.form.chars, line, none⟩] := by
  obtain ⟨complete, written⟩ := Invocation.parse_eq_ok_iff.mp parsed
  obtain ⟨front, back, whole, blankFront, blankBack⟩ := exists_trim_append source.toList
  have wellFormed := Invocation.form_wellFormed complete
  have passedWellFormed := Invocation.form_wellFormed
    (Invocation.endsWithBackslash_instruction_withLineFeeds complete)
  have bodyOnly : OnlyNewlines invocation.withLineFeeds.form.body := by
    rw [Invocation.form_withLineFeeds]
    exact onlyNewlines_withLineFeeds _
  have standsAlone := CallForm.standsAlone_chars passedWellFormed bodyOnly
  have closes := (CallForm.passes_chars passedWellFormed).closes
  have noPair : (invocation.form.chars ++ back).head? ≠ some '\n' := by
    obtain ⟨c, first, inName⟩ := CallForm.head?_chars wellFormed
    rw [List.head?_append, first]
    rintro ⟨⟩
    cases inName
  have ended : Text.withLineFeeds source.toList = Text.withLineFeeds front ++
      (invocation.withLineFeeds.form.chars ++ Text.withLineFeeds back) := by
    rw [whole, written, List.append_assoc, withLineFeeds_append front noPair,
      CallForm.withLineFeeds_chars_append wellFormed, Invocation.form_withLineFeeds]
  unfold Statement.split
  rw [← splitLines_withLineFeeds, ended,
    Statement.ofLines_blank_append (isBlank_of_mem_withLineFeeds blankFront)
      (onlyNewlines_withLineFeeds front),
    Statement.ofLines_standsAlone_append standsAlone closes
      (isBlank_of_mem_withLineFeeds blankBack) (onlyNewlines_withLineFeeds back)]
  exact ⟨_, rfl⟩

/-- Expanding a source that reads as an invocation gives one statement and no macros.  The
statement reads as the invocation with a line feed for each line end of its instruction, so
it is the same invocation just if its instruction ends its lines with line feeds alone. -/
theorem ofSource_of_parse (parsed : Invocation.parse source = .ok invocation) (default : Value) :
    ∃ statement, ofSource source default = .ok ⟨[statement], []⟩ ∧ statement.expansion = none ∧
      Invocation.parse statement.text = .ok invocation.withLineFeeds ∧
      (Invocation.parse statement.text = Invocation.parse source ↔
        OnlyNewlines invocation.instruction.toList) := by
  obtain ⟨complete, _⟩ := Invocation.parse_eq_ok_iff.mp parsed
  have passedComplete := Invocation.endsWithBackslash_instruction_withLineFeeds complete
  have passedWellFormed := Invocation.form_wellFormed passedComplete
  obtain ⟨line, split⟩ := split_of_parse parsed
  have plain : IsPlain (String.ofList invocation.withLineFeeds.form.chars) := by
    obtain ⟨c, first, inName⟩ := CallForm.head?_chars passedWellFormed
    rw [← String.toList_ofList (l := invocation.withLineFeeds.form.chars)] at first
    refine isPlain_of_head? first ?_
    rintro rfl
    cases inName
  have passed : Invocation.parse (String.ofList invocation.withLineFeeds.form.chars) =
      .ok invocation.withLineFeeds := by
    rw [Invocation.parse_eq_ok_iff, String.toList_ofList]
    exact ⟨passedComplete, trim_eq_self (CallForm.isTrimmed_chars passedWellFormed)⟩
  have plainAll : ∀ statement ∈ Statement.split source, IsPlain statement.text := by
    intro statement member
    rw [split, List.mem_singleton] at member
    rw [member]
    exact plain
  have expands : ofSource source default =
      .ok ⟨[⟨String.ofList invocation.withLineFeeds.form.chars, line, none⟩], []⟩ := by
    rw [ofSource_of_plain plainAll, split]
  refine ⟨_, expands, rfl, passed, ?_⟩
  rw [passed, parsed, Except.ok.injEq, Invocation.withLineFeeds_eq_self_iff]

/-- An instruction over two lines, with blank lines around it. -/
theorem ofSource_of_parse_lines :
    Invocation.parse "\n a:\"x\ny\":v \r\n" =
        .ok ⟨"a", "x\ny", some "v", by decide, by decide, by decide⟩ ∧
      ∃ statement, ofSource "\n a:\"x\ny\":v \r\n" .null = .ok ⟨[statement], []⟩ ∧
        Invocation.parse statement.text = Invocation.parse "\n a:\"x\ny\":v \r\n" := by
  have parsed : Invocation.parse "\n a:\"x\ny\":v \r\n" =
      .ok ⟨"a", "x\ny", some "v", by decide, by decide, by decide⟩ := rfl
  have only : OnlyNewlines "x\ny".toList :=
    @of_decide_eq_true _ (List.decidableBAll _ _) rfl
  obtain ⟨statement, expands, _, _, same⟩ := ofSource_of_parse parsed .null
  exact ⟨parsed, statement, expands, same.mpr only⟩

/-- A line separator inside of an instruction is lost. -/
theorem lineSeparator_lost :
    ((Invocation.parse "a:\"x\u2028y\"").map Invocation.instruction).toOption = some "x\u2028y" ∧
      ((ofSource "a:\"x\u2028y\"" .null).map fun expanded =>
        expanded.statements.map fun statement =>
          ((Invocation.parse statement.text).map Invocation.instruction).toOption).toOption =
        some [some "x\ny"] := by
  constructor <;> decide +kernel

end Expanded

end AgentFlow
