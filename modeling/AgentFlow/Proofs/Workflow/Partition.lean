import AgentFlow.Proofs.Workflow.Openness

/-!
# Statements divide the lines of a source

The lines of a source fall into runs and lines between them.  Each run is one statement,
and the lines between the runs are blank or comments.  A run goes on as long as something
is open at the end of its lines, so that only the last one can be left open.  The lines
that have been read are counted, not taken away: a run is told by its numbers in the whole
source, which stay the same from one step of the reading to the next.
-/

namespace AgentFlow.Statement

open AgentFlow.Text

/-- A run of lines: the number of its first line, counted from one, and their number. -/
structure Extent where
  start : Nat
  length : Nat

namespace Extent

/-- The number of the line behind the run. -/
def stop (extent : Extent) : Nat :=
  extent.start + extent.length

def Covers (extent : Extent) (number : Nat) : Prop :=
  extent.start ≤ number ∧ number < extent.stop

/-- The lines of the run. -/
def lines (extent : Extent) (source : List (List Char)) : List (List Char) :=
  (source.drop (extent.start - 1)).take extent.length

end Extent

/-- The lines of the source behind those that have been read are divided into the runs,
and into blank lines and comments. -/
structure Divides (source : List (List Char)) (read : Nat) (extents : List Extent) : Prop where
  nonempty : ∀ extent ∈ extents, 0 < extent.length
  within : ∀ extent ∈ extents, read < extent.start ∧ extent.stop ≤ source.length + 1
  disjoint : extents.Pairwise fun earlier later => earlier.stop ≤ later.start
  between : ∀ index line, read ≤ index → source[index]? = some line →
    (∀ extent ∈ extents, ¬extent.Covers (index + 1)) →
      trim line = [] ∨ (trim line).head? = some '#'
  goesOn : ∀ extent ∈ extents, ∀ count, 0 < count → count < extent.length →
    IsOpen (joinLines ((extent.lines source).take count))
  ends : ∀ extent ∈ extents, IsOpen (joinLines (extent.lines source)) →
    extents.getLast? = some extent ∧ extent.stop = source.length + 1

/-- The statement that a run of lines is. -/
structure IsRun (source : List (List Char)) (extent : Extent) (statement : Statement) :
    Prop where
  line : statement.line = extent.start
  text : statement.text.toList = trim (joinLines (extent.lines source))
  nonempty : statement.text.toList ≠ []
  noComment : statement.text.toList.head? ≠ some '#'
  plain : statement.expansion = none

/-! ## Steps of the reading -/

namespace Divides

variable {source : List (List Char)} {read : Nat} {extents : List Extent}

theorem nil (atEnd : source.length ≤ read) : Divides source read [] where
  nonempty := nofun
  within := nofun
  disjoint := .nil
  between := by
    intro index line behind found
    obtain ⟨inSource, _⟩ := List.getElem?_eq_some_iff.mp found
    omega
  goesOn := nofun
  ends := nofun

theorem eq_nil (divides : Divides source read extents) (atEnd : source.length ≤ read) :
    extents = [] := by
  cases extents with
  | nil => rfl
  | cons extent extents =>
      have ⟨starts, stops⟩ := divides.within extent List.mem_cons_self
      have nonempty := divides.nonempty extent List.mem_cons_self
      unfold Extent.stop at stops
      omega

theorem increasing (divides : Divides source read extents) :
    extents.Pairwise fun earlier later => earlier.start < later.start := by
  apply divides.disjoint.imp_of_mem
  intro earlier later member _ disjoint
  have nonempty := divides.nonempty earlier member
  unfold Extent.stop at disjoint
  omega

theorem skip {line : List Char} (next : source[read]? = some line)
    (skipped : trim line = [] ∨ (trim line).head? = some '#')
    (divides : Divides source (read + 1) extents) : Divides source read extents where
  nonempty := divides.nonempty
  within := by
    intro extent member
    have ⟨starts, stops⟩ := divides.within extent member
    exact ⟨Nat.lt_of_succ_lt starts, stops⟩
  disjoint := divides.disjoint
  between := by
    intro index other behind found uncovered
    rcases Nat.eq_or_lt_of_le behind with rfl | further
    · rw [next] at found
      cases found
      exact skipped
    · exact divides.between index other further found uncovered
  goesOn := divides.goesOn
  ends := divides.ends

theorem cons {run : List (List Char)} (nonempty : 0 < run.length)
    (isRun : (Extent.mk (read + 1) run.length).lines source = run)
    (within : read + run.length ≤ source.length)
    (goesOn : ∀ count, 0 < count → count < run.length → IsOpen (joinLines (run.take count)))
    (ends : IsOpen (joinLines run) → read + run.length = source.length)
    (divides : Divides source (read + run.length) extents) :
    Divides source read (⟨read + 1, run.length⟩ :: extents) where
  nonempty := List.forall_mem_cons.mpr ⟨nonempty, divides.nonempty⟩
  within := by
    rw [List.forall_mem_cons]
    constructor
    · simp [Extent.stop]
      omega
    · intro extent member
      have ⟨starts, stops⟩ := divides.within extent member
      exact ⟨by omega, stops⟩
  disjoint := by
    apply List.pairwise_cons.mpr
    refine ⟨?_, divides.disjoint⟩
    intro extent member
    have ⟨starts, _⟩ := divides.within extent member
    simp [Extent.stop]
    omega
  between := by
    intro index line behind found uncovered
    obtain ⟨notFirst, notOthers⟩ := List.forall_mem_cons.mp uncovered
    have further : read + run.length ≤ index := by
      simp [Extent.Covers, Extent.stop] at notFirst
      omega
    exact divides.between index line further found notOthers
  goesOn := by
    rw [List.forall_mem_cons]
    rw [isRun]
    exact ⟨goesOn, divides.goesOn⟩
  ends := by
    rw [List.forall_mem_cons]
    rw [isRun]
    constructor
    · intro isOpen
      have atEnd := ends isOpen
      have noOthers := divides.eq_nil (Nat.le_of_eq atEnd.symm)
      rw [noOthers]
      refine ⟨rfl, ?_⟩
      simp [Extent.stop]
      omega
    · intro extent member isOpen
      obtain ⟨last, atEnd⟩ := divides.ends extent member isOpen
      refine ⟨?_, atEnd⟩
      rw [List.getLast?_cons, last]
      rfl

end Divides

/-! ## Runs -/

theorem joinLines_append {first second : List (List Char)} (firstNonempty : first ≠ [])
    (secondNonempty : second ≠ []) :
    joinLines (first ++ second) = joinLines first ++ '\n' :: joinLines second := by
  induction first with
  | nil => exact absurd rfl firstNonempty
  | cons line lines induction =>
      by_cases more : lines = []
      · subst more
        exact joinLines_cons secondNonempty
      · rw [List.cons_append, joinLines_cons (by simp [more]), induction more,
          joinLines_cons more, List.append_assoc, List.cons_append]

open ScanState in
/-- Something is open behind each of the lines of a run but the last. -/
theorem isOpen_take {run : List (List Char)}
    (unbroken : OpenAtBreaks .closed false (joinLines run)) {count : Nat} (begun : 0 < count)
    (notAll : count < run.length) : IsOpen (joinLines (run.take count)) := by
  have front : run.take count ≠ [] := by
    apply List.ne_nil_of_length_pos
    rw [List.length_take]
    omega
  have back : run.drop count ≠ [] := by
    apply List.ne_nil_of_length_pos
    rw [List.length_drop]
    omega
  rw [← List.take_append_drop count run, joinLines_append front back] at unbroken
  obtain ⟨_, isOpen, _⟩ := openAtBreaks_append_newline.mp unbroken
  rw [isOpen_iff_not_closes, Closes, isOpen]
  exact Bool.false_ne_true

theorem blank_or_comment_of_isSkipped {line : List Char} (skipped : isSkipped line = true) :
    trim line = [] ∨ (trim line).head? = some '#' := by
  rw [isSkipped_eq] at skipped
  cases trimmed : trim line with
  | nil => exact .inl rfl
  | cons c rest =>
      rw [trimmed] at skipped
      right
      simpa using skipped

theorem isRun_runText {line : List Char} {lines run rest source : List (List Char)} {read : Nat}
    (areLines : ∀ one ∈ line :: lines, IsLine one) (starts : isSkipped line = false)
    (taken : takeRun .closed (line :: lines) = (run, rest))
    (isRun : (Extent.mk (read + 1) run.length).lines source = run) :
    IsRun source ⟨read + 1, run.length⟩ ⟨runText run, read + 1, none⟩ := by
  obtain ⟨standsAlone, _⟩ := standsAlone_of_takeRun areLines starts taken
  obtain ⟨c, first, noComment⟩ := standsAlone.starts
  constructor
  · rfl
  · rw [isRun, runText, String.toList_ofList]
  · rw [runText, String.toList_ofList]
    exact standsAlone.ne_nil
  · rw [runText, String.toList_ofList, first]
    simpa using noComment
  · rfl

/-- What is taken from the lines that have not been read is the run that starts there. -/
theorem lines_extent {source run rest : List (List Char)} {read : Nat}
    (unread : source.drop read = run ++ rest) :
    (Extent.mk (read + 1) run.length).lines source = run := by
  rw [Extent.lines, Nat.add_sub_cancel, unread, List.take_left]

/-- The statements of the lines that have not been read are the runs that these are divided
into. -/
theorem exists_divides_ofLines {source : List (List Char)}
    (areLines : ∀ line ∈ source, IsLine line) (number : Nat) (lines : List (List Char)) :
    ∀ read, source.drop read = lines → read + 1 = number →
      ∃ extents, Divides source read extents ∧
        List.Forall₂ (IsRun source) extents (ofLines number lines) := by
  fun_induction ofLines number lines with
  | case1 number =>
      intro read unread _
      exact ⟨[], .nil (List.drop_eq_nil_iff.mp unread), .nil⟩
  | case2 number line lines skipped induction =>
      intro read unread next
      subst next
      have found : source[read]? = some line := by
        rw [← List.head?_drop, unread, List.head?_cons]
      have unreadRest : source.drop (read + 1) = lines := by
        rw [← List.tail_drop, unread, List.tail_cons]
      obtain ⟨extents, divides, areRuns⟩ := induction (read + 1) unreadRest rfl
      exact ⟨extents, divides.skip found (blank_or_comment_of_isSkipped skipped), areRuns⟩
  | case3 number line lines starts run induction =>
      intro read unread next
      subst next
      have areUnread : ∀ one ∈ line :: lines, IsLine one := by
        intro one member
        rw [← unread] at member
        exact areLines one (List.mem_of_mem_drop member)
      have starts : isSkipped line = false := Bool.eq_false_iff.mpr starts
      have whole : source.drop read = run.1 ++ run.2 := by
        rw [unread]
        exact (takeRun_append .closed (line :: lines)).symm
      have unreadRest : source.drop (read + run.1.length) = run.2 := by
        rw [← List.drop_drop, whole, List.drop_left]
      obtain ⟨extents, divides, areRuns⟩ :=
        induction (read + run.1.length) unreadRest (by omega)
      have taken : takeRun .closed (line :: lines) = (run.1, run.2) := rfl
      obtain ⟨unbroken, closes⟩ := takeRun_spec areUnread taken
      obtain ⟨others, startsRun⟩ := exists_cons_of_takeRun taken
      have nonempty : 0 < run.1.length := by
        rw [startsRun]
        exact Nat.succ_pos others.length
      have lengths := congrArg List.length whole
      rw [List.length_drop, List.length_append] at lengths
      have isRun := lines_extent whole
      refine ⟨⟨read + 1, run.1.length⟩ :: extents, ?_, ?_⟩
      · apply divides.cons nonempty isRun
        · omega
        · intro count
          exact isOpen_take unbroken
        · intro isOpen
          have noRest := closes.resolve_left (isOpen_iff_not_closes.mp isOpen)
          rw [noRest, List.length_nil] at lengths
          omega
      · exact .cons (isRun_runText areUnread starts taken isRun) areRuns

theorem map_line {source : List (List Char)} {extents : List Extent}
    {statements : List Statement} (areRuns : List.Forall₂ (IsRun source) extents statements) :
    statements.map (·.line) = extents.map (·.start) := by
  induction areRuns with
  | nil => rfl
  | cons isRun _ induction => rw [List.map_cons, List.map_cons, isRun.line, induction]

/-- The statements of a source are, in their order, runs of its lines that do not overlap.
Outside of them are blank lines and comments alone, each goes on up to the first line at
whose end nothing is open, and only the last one may be left open, by the end of the
source. -/
theorem split_divides (source : String) :
    ∃ extents, Divides (splitLines source.toList) 0 extents ∧
      List.Forall₂ (IsRun (splitLines source.toList)) extents (split source) ∧
      (split source).Pairwise fun earlier later => earlier.line < later.line := by
  obtain ⟨extents, divides, areRuns⟩ :=
    exists_divides_ofLines isLine_of_mem_splitLines 1 (splitLines source.toList) 0 rfl rfl
  refine ⟨extents, divides, areRuns, ?_⟩
  have increasing := divides.increasing
  rw [← List.pairwise_map, ← map_line areRuns, List.pairwise_map] at increasing
  exact increasing

/-- A stray closing brace is a statement of its own, and the quoted text keeps its brace,
its blank line and what looks like a comment. -/
example : (split "# note\n\x7d\nsay: \"a \x7b\n\n# b\"\n\x7b").map (·.line) = [2, 3, 6] := by
  decide +kernel

end AgentFlow.Statement
