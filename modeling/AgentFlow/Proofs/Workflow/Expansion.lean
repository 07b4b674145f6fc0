import AgentFlow.Proofs.Workflow.Inlining
import AgentFlow.Proofs.Workflow.WrittenForm

/-!
# Expansion leaves a source without macros

The statements of an expanded source can be told apart again, and none of them
defines or calls a macro.  So its text is a source that expansion leaves as it is.
-/

namespace AgentFlow

open AgentFlow.Text Statement

namespace Expanded

/-- A text that neither defines a macro nor calls one. -/
structure IsPlain (text : String) : Prop where
  noDefinition : Macro.isDefinition text = false
  noCall : Macro.isCall text = false

theorem isPlain_of_head? {text : String} {c : Char} (first : text.toList.head? = some c)
    (noSign : c ≠ '$') : IsPlain text := by
  have noHead : Macro.takeHead? text.toList = none := by
    unfold Macro.takeHead?
    split
    · rename_i rest atSign
      rw [atSign] at first
      cases first
      exact absurd rfl noSign
    · rfl
  constructor
  · simp [Macro.isDefinition, noHead]
  · simp [Macro.isCall, first, noSign]

/-! ## Collecting the definitions -/

theorem collect_of_noDefinition {statements : List Statement}
    (noDefinitions : ∀ statement ∈ statements, Macro.isDefinition statement.text = false)
    (default : Value) (macros : MacroTable) :
    collect default macros statements = .ok (macros, statements) := by
  induction statements with
  | nil => rfl
  | cons statement rest induction =>
      obtain ⟨first, others⟩ := List.forall_mem_cons.mp noDefinitions
      simp [collect, first, induction others, Except.map]

/-! ## Expanding the calls -/

theorem onlyNewlines_escapeQuotes {value : List Char} (only : OnlyNewlines value) :
    OnlyNewlines (escapeQuotes value) := by
  induction value with
  | nil => exact nofun
  | cons c rest induction =>
      obtain ⟨first, others⟩ := List.forall_mem_cons.mp only
      unfold escapeQuotes
      split
      · exact .cons (by decide) (.cons (by decide) (induction others))
      · exact .cons first (induction others)

theorem onlyNewlines_intercalate {separator : List Char} {pieces : List (List Char)}
    (separatorOnly : OnlyNewlines separator) (piecesOnly : ∀ piece ∈ pieces, OnlyNewlines piece) :
    OnlyNewlines (List.intercalate separator pieces) := by
  induction pieces with
  | nil => exact nofun
  | cons piece pieces induction =>
      obtain ⟨first, others⟩ := List.forall_mem_cons.mp piecesOnly
      by_cases more : pieces = []
      · subst more
        simpa using first
      · rw [List.intercalate_cons_of_ne_nil more]
        exact (first.append separatorOnly).append (induction others)

theorem onlyNewlines_joinPreambles {pieces : List String}
    (piecesOnly : ∀ piece ∈ pieces, OnlyNewlines piece.toList) :
    OnlyNewlines (joinPreambles pieces).toList := by
  rw [joinPreambles, String.toList_intercalate]
  apply onlyNewlines_intercalate
  · simp [OnlyNewlines]
  · intro piece member
    obtain ⟨text, inPieces, rfl⟩ := List.mem_map.mp member
    exact piecesOnly text inPieces

/-- A text that is the written form of an invocation on lines of its own. -/
structure IsWritten (text : String) (invocation : Invocation) : Prop where
  complete : endsWithBackslash invocation.instruction.toList = false
  onlyNewlines : OnlyNewlines invocation.instruction.toList
  text : text.toList = invocation.form.chars

namespace IsWritten

variable {text : String} {invocation : Invocation}

theorem standsAlone (written : IsWritten text invocation) : StandsAlone text.toList := by
  rw [written.text]
  exact CallForm.standsAlone_chars (Invocation.form_wellFormed written.complete)
    (onlyNewlines_escapeQuotes written.onlyNewlines)

theorem closes (written : IsWritten text invocation) : Closes text.toList := by
  rw [written.text]
  exact (CallForm.passes_chars (Invocation.form_wellFormed written.complete)).closes

theorem isPlain (written : IsWritten text invocation) : IsPlain text := by
  obtain ⟨c, first, inName⟩ :=
    CallForm.head?_chars (Invocation.form_wellFormed written.complete)
  rw [← written.text] at first
  refine isPlain_of_head? first ?_
  rintro rfl
  cases inName

end IsWritten

variable {macros : MacroTable} {statement expanded : Statement}

/-- An expanded call is the written form of an invocation. -/
theorem isPlain_or_isWritten
    (promptsOnly : ∀ definition ∈ macros, OnlyNewlines definition.prompt.toList)
    (textOnly : OnlyNewlines statement.text.toList)
    (noDefinition : Macro.isDefinition statement.text = false)
    (inlines : Inlines macros statement expanded) :
    expanded = statement ∧ IsPlain statement.text ∨
      ∃ invocation, IsWritten expanded.text invocation := by
  cases inlines with
  | plain noCall => exact .inl ⟨rfl, noDefinition, noCall⟩
  | @call form definition others invocation text _ written _ chain instruction _ serialized _ =>
      obtain ⟨complete, rewritten⟩ := Invocation.serialize_eq_ok_iff.mp serialized
      refine .inr ⟨invocation, complete, ?_, rewritten⟩
      rw [instruction]
      apply onlyNewlines_joinPreambles
      intro piece member
      rcases List.mem_append.mp member with preamble | own
      · obtain ⟨other, inChain, rfl⟩ := List.mem_map.mp preamble
        exact promptsOnly other (chain.subset (List.mem_reverse.mp inChain))
      · obtain rfl := List.mem_singleton.mp own
        rw [written] at textOnly
        rw [String.toList_ofList]
        refine textOnly.subset (List.Subset.trans (Macro.unescapeQuotes_subset form.body) ?_)
        exact List.subset_cons_of_subset '$' (CallForm.body_subset_chars form)

/-- Expanded statements can be told apart, and no macros are left in them. -/
theorem separable_of_inlines {statements expandedAll : List Statement}
    (promptsOnly : ∀ definition ∈ macros, OnlyNewlines definition.prompt.toList)
    (separable : Separable (statements.map (·.text.toList)))
    (noDefinitions : ∀ statement ∈ statements, Macro.isDefinition statement.text = false)
    (inlines : List.Forall₂ (Inlines macros) statements expandedAll) :
    Separable (expandedAll.map (·.text.toList)) ∧
      ∀ statement ∈ expandedAll, IsPlain statement.text := by
  induction inlines with
  | nil => exact ⟨.nil, nofun⟩
  | @cons statement first rest others inlinesFirst inlinesRest induction =>
      obtain ⟨noDefinition, noDefinitionsRest⟩ := List.forall_mem_cons.mp noDefinitions
      obtain ⟨separableRest, plainRest⟩ := induction separable.tail noDefinitionsRest
      have standsAlone := separable.standsAlone _ List.mem_cons_self
      rcases isPlain_or_isWritten promptsOnly standsAlone.onlyNewlines noDefinition
        inlinesFirst with ⟨rfl, plain⟩ | ⟨invocation, written⟩
      · refine ⟨.ofClosesOrLast standsAlone ?_ separableRest,
          List.forall_mem_cons.mpr ⟨plain, plainRest⟩⟩
        rcases separable.closes_or_last with closes | noRest
        · exact .inl closes
        · obtain rfl := List.map_eq_nil_iff.mp noRest
          cases inlinesRest
          exact .inr rfl
      · exact ⟨.cons written.standsAlone written.closes separableRest,
          List.forall_mem_cons.mpr ⟨written.isPlain, plainRest⟩⟩

/-! ## Expanding again -/

theorem ofSource_spec {source : String} {default : Value} {expanded : Expanded}
    (expands : ofSource source default = .ok expanded) :
    Separable (expanded.statements.map (·.text.toList)) ∧
      ∀ statement ∈ expanded.statements, IsPlain statement.text := by
  obtain ⟨defines, _, inlines⟩ := inlines_of_ofSource expands
  have separable := separable_split source
  have promptsOnly : ∀ definition ∈ expanded.macros, OnlyNewlines definition.prompt.toList := by
    intro definition member
    obtain ⟨statement, inSource, defined⟩ := exists_defines defines definition member
    have standsAlone := separable.standsAlone _ (List.mem_map_of_mem (List.mem_of_mem_filter inSource))
    exact standsAlone.onlyNewlines.subset defined.prompt_subset
  refine separable_of_inlines promptsOnly (separable.sublist ?_) ?_ inlines
  · exact List.filter_sublist.map _
  · intro statement member
    simpa using (List.mem_filter.mp member).2

theorem expandAll_of_noCall {statements : List Statement}
    (noCalls : ∀ statement ∈ statements, Macro.isCall statement.text = false)
    (macros : MacroTable) : expandAll macros statements = .ok statements := by
  induction statements with
  | nil => rfl
  | cons statement rest induction =>
      obtain ⟨first, others⟩ := List.forall_mem_cons.mp noCalls
      simp [expandAll, expandStatement, first, induction others, bind, Except.bind]

theorem toList_text (expanded : Expanded) :
    expanded.text.toList = joinLines (expanded.statements.map (·.text.toList)) := by
  rw [text, toList_intercalate_newline, List.map_map]
  rfl

/-- The statements of the text of an expanded source are the ones it was made from. -/
theorem text_split_text {source : String} {default : Value} {expanded : Expanded}
    (expands : ofSource source default = .ok expanded) :
    (split expanded.text).map (·.text) = expanded.statements.map (·.text) := by
  obtain ⟨separable, _⟩ := ofSource_spec expands
  unfold split
  rw [toList_text, text_ofLines_joinLines separable]
  simp [Function.comp_def]

/-- A source that neither defines nor calls a macro is expanded to its own statements. -/
theorem ofSource_of_plain {source : String}
    (plain : ∀ statement ∈ split source, IsPlain statement.text) (default : Value) :
    ofSource source default = .ok ⟨split source, []⟩ := by
  unfold ofSource
  rw [collect_of_noDefinition fun statement member => (plain statement member).noDefinition]
  simp only [bind, Except.bind]
  rw [expandAll_of_noCall fun statement member => (plain statement member).noCall]

/-- Expanding the text of an expanded source gives the same statements, and finds no
macros. -/
theorem ofSource_text {source : String} {default : Value} {expanded : Expanded}
    (expands : ofSource source default = .ok expanded) (other : Value) :
    ofSource expanded.text other = .ok ⟨split expanded.text, []⟩ := by
  obtain ⟨_, plain⟩ := ofSource_spec expands
  refine ofSource_of_plain (fun statement member => ?_) other
  have inTexts : statement.text ∈ (split expanded.text).map (·.text) :=
    List.mem_map_of_mem member
  rw [text_split_text expands] at inTexts
  obtain ⟨original, inExpanded, same⟩ := List.mem_map.mp inTexts
  rw [← same]
  exact plain original inExpanded

theorem expansions_split (source : String) : expansions ⟨split source, []⟩ = [] := by
  rw [expansions, List.filterMap_eq_nil_iff]
  exact expansion_of_mem_ofLines

end Expanded

end AgentFlow
