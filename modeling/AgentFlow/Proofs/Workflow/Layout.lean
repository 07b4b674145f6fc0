import AgentFlow.Proofs.Workflow.Invocation
import AgentFlow.Proofs.Workflow.WrittenDefinition

/-!
# Sources laid out from statements

A source that is put together from written statements, with blank lines and comment
lines between them, is split into exactly these statements.  The grammars of the
statements are those of the other readers: the scanner knows none of them, and closes a
statement where its own reader would end it.
-/

namespace AgentFlow.Statement

open AgentFlow.Text

/-- A text that one of the readers of statements reads. -/
inductive Grammatical : String → Prop where
  | invocation {invocation : Invocation} {text : String} :
      invocation.serialize = .ok text → Grammatical text
  | call {invocation : Invocation} {text : String} :
      invocation.serialize = .ok text → Grammatical ("$" ++ text)
  | definition {text : String} {line : Int} {default : Value} {definition : Macro} :
      Macro.parse text line default = .ok definition → trimmed text = text →
        Macro.OpensOnFirstLine text.toList → Grammatical text

/-- A line with nothing on it, or with a comment. -/
def IsFiller (line : List Char) : Prop :=
  IsLine line ∧ ((∀ c ∈ line, isBlank c = true) ∨
    ∃ blanks comment, line = blanks ++ '#' :: comment ∧ ∀ c ∈ blanks, isBlank c = true)

/-- What a source is laid out from. -/
inductive Part where
  | statement (text : String)
  | filler (line : String)

namespace Part

def text : Part → String
  | statement text => text
  | filler line => line

/-- A statement that its reader reads, with line feeds for its only line boundaries, or a
line that no statement stands on. -/
def Regular : Part → Prop
  | statement text => Grammatical text ∧ OnlyNewlines text.toList
  | filler line => IsFiller line.toList

end Part

/-- The statements of a layout whose first part stands on the given line. -/
def placed (number : Nat) : List Part → List Statement
  | [] => []
  | .statement text :: parts =>
    ⟨text, number, none⟩ :: placed (number + (text.toList.count '\n' + 1)) parts
  | .filler _ :: parts => placed (number + 1) parts

/-! ## One part -/

/-- A dollar sign in front of a written form changes nothing for the scanner. -/
theorem standsAlone_call {form : CallForm} (wellFormed : form.WellFormed)
    (onlyNewlines : OnlyNewlines ('$' :: form.chars)) :
    StandsAlone ('$' :: form.chars) ∧ Closes ('$' :: form.chars) := by
  have dollar : ScanState.Passes .closed ['$'] :=
    .ofInert (List.forall_mem_singleton.mpr (by decide))
      (.inl (List.forall_mem_singleton.mpr (by decide)))
  have passes := dollar.append (CallForm.passes_chars wellFormed)
  have trimmed := CallForm.isTrimmed_chars wellFormed
  obtain ⟨c, first, _⟩ := CallForm.head?_chars wellFormed
  refine ⟨⟨⟨?_, ?_⟩, ⟨'$', rfl, by decide⟩, onlyNewlines, passes.openAtBreaks⟩, passes.closes⟩
  · rintro c ⟨⟩
    decide
  · intro last atEnd
    apply trimmed.last
    rwa [List.getLast?_cons_of_ne_nil] at atEnd
    intro empty
    rw [empty] at first
    cases first

theorem standsAlone_of_grammatical {text : String} (grammatical : Grammatical text)
    (onlyNewlines : OnlyNewlines text.toList) :
    StandsAlone text.toList ∧ Closes text.toList := by
  cases grammatical with
  | invocation serialized =>
      obtain ⟨complete, written⟩ := Invocation.serialize_eq_ok_iff.mp serialized
      have wellFormed := Invocation.form_wellFormed complete
      rw [written] at onlyNewlines ⊢
      have bodyOnly := onlyNewlines.subset (CallForm.body_subset_chars _)
      exact ⟨CallForm.standsAlone_chars wellFormed bodyOnly,
        (CallForm.passes_chars wellFormed).closes⟩
  | call serialized =>
      obtain ⟨complete, written⟩ := Invocation.serialize_eq_ok_iff.mp serialized
      have wellFormed := Invocation.form_wellFormed complete
      rw [String.toList_append, written] at onlyNewlines ⊢
      exact standsAlone_call wellFormed onlyNewlines
  | definition parsed isTrimmed opensOnFirstLine =>
      exact Macro.standsAlone_of_parse parsed isTrimmed opensOnFirstLine onlyNewlines

theorem isSkipped_of_isFiller {line : List Char} (filler : IsFiller line) :
    isSkipped line = true := by
  rw [isSkipped_eq, head?_trim]
  rcases filler.2 with blank | ⟨blanks, comment, rfl, blank⟩
  · have noFirst : line.find? (!isBlank ·) = none := by simpa using blank
    rw [noFirst]
    rfl
  · have noFirst : blanks.find? (!isBlank ·) = none := by simpa using blank
    have mark : isBlank '#' = false := by decide
    simp [List.find?_append, noFirst, mark]

/-- A skipped line in front of several texts only moves them down. -/
theorem ofLines_skipped_cons {line : List Char} (isLine : IsLine line)
    (skipped : isSkipped line = true) (texts : List (List Char)) (number : Nat) :
    ofLines number (splitLines (joinLines (line :: texts))) =
      ofLines (number + 1) (splitLines (joinLines texts)) := by
  have passedOver : ∀ lines, ofLines number (line :: lines) = ofLines (number + 1) lines := by
    intro lines
    rw [ofLines, if_pos skipped]
  by_cases more : texts = []
  · subst more
    by_cases empty : line = []
    · subst empty
      simp [joinLines, splitLines, ofLines]
    · show ofLines number (splitLines line) = _
      rw [splitLines_line isLine empty, passedOver]
      rfl
  · rw [joinLines_cons more, splitLines_line_append isLine, passedOver]

/-! ## The whole layout -/

theorem ofLines_layout {parts : List Part} (regular : ∀ part ∈ parts, part.Regular)
    (number : Nat) :
    ofLines number (splitLines (joinLines (parts.map (·.text.toList)))) = placed number parts := by
  induction parts generalizing number with
  | nil => simp [joinLines, splitLines, ofLines, placed]
  | cons part parts induction =>
      obtain ⟨first, others⟩ := List.forall_mem_cons.mp regular
      cases part with
      | statement text =>
          obtain ⟨standsAlone, closes⟩ := standsAlone_of_grammatical first.1 first.2
          rw [List.map_cons, Part.text, ofLines_joinLines_cons standsAlone (.inl closes),
            induction others, String.ofList_toList, placed]
      | filler line =>
          rw [List.map_cons, Part.text, ofLines_skipped_cons first.1 (isSkipped_of_isFiller first),
            induction others, placed]

/-- Splitting the text of a layout gives its statements back, each with the line that it
starts on. -/
theorem split_layout {parts : List Part} (regular : ∀ part ∈ parts, part.Regular) :
    split (String.intercalate "\n" (parts.map Part.text)) = placed 1 parts := by
  unfold split
  rw [toList_intercalate_newline, List.map_map]
  exact ofLines_layout regular 1

/-- Unbalanced comments, a backslash at the end of a line inside of a quoted text, and a
definition on two lines. -/
theorem split_layout_unbalanced :
    split "# \" \x7b\na:\"x\\\n\":v\n  #\n\n$m := \x7b base: \"b\",\n prompt: \"\x7d\\\"#\" \x7d\n$m:\"\x7b\"" =
      [⟨"a:\"x\\\n\":v", 2, none⟩,
        ⟨"$m := \x7b base: \"b\",\n prompt: \"\x7d\\\"#\" \x7d", 6, none⟩,
        ⟨"$m:\"\x7b\"", 8, none⟩] := by
  have invocation : Grammatical "a:\"x\\\n\":v" :=
    .invocation (show (⟨"a", "x\\\n", some "v", by decide, by decide, by decide⟩ :
      Invocation).serialize = .ok _ from rfl)
  have definition : Grammatical "$m := \x7b base: \"b\",\n prompt: \"\x7d\\\"#\" \x7d" := by
    have defines : (Macro.parse "$m := \x7b base: \"b\",\n prompt: \"\x7d\\\"#\" \x7d" 0
        defaultModel).toOption.isSome := by decide +kernel
    obtain ⟨definition, found⟩ := Option.isSome_iff_exists.mp defines
    exact .definition (toOption_eq_some_iff.mp found) rfl (by unfold Macro.OpensOnFirstLine; decide)
  have call : Grammatical ("$" ++ "m:\"\x7b\"") :=
    .call (show (⟨"m", "\x7b", none, by decide, by decide, by simp⟩ : Invocation).serialize = .ok _
      from rfl)
  have regular : ∀ part ∈ [Part.filler "# \" \x7b", .statement "a:\"x\\\n\":v", .filler "  #",
      .filler "", .statement "$m := \x7b base: \"b\",\n prompt: \"\x7d\\\"#\" \x7d",
      .statement "$m:\"\x7b\""], part.Regular := by
    simp only [List.forall_mem_cons]
    refine ⟨⟨?_, .inr ⟨[], _, rfl, by simp⟩⟩, ⟨invocation, ?_⟩, ⟨?_, .inr ⟨[' ', ' '], [], rfl, ?_⟩⟩,
      ⟨?_, .inl (by simp)⟩, ⟨definition, ?_⟩, ⟨call, ?_⟩, by simp⟩
    all_goals exact @of_decide_eq_true _ (List.decidableBAll _ _) rfl
  exact split_layout regular

end AgentFlow.Statement
