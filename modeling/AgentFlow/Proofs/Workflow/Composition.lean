import AgentFlow.Proofs.Workflow.Inlining
import AgentFlow.Proofs.Workflow.Interpolation

/-!
# Instructions put together from templates

The prompts of a chain and the instruction of a call are templates, and so is what
expansion makes of them.  The empty lines between them belong to no placeholder, so the
placeholders of the whole are those of the parts, and filling in the whole is filling in
the parts.
-/

namespace AgentFlow

open AgentFlow.Text

/-- The first of the items that fails is the one that a traversal reports. -/
theorem mapM_eq_error_iff {ε α β : Type} {f : α → Except ε β} {items : List α} {e : ε} :
    items.mapM f = .error e ↔
      ∃ before item after, items = before ++ item :: after ∧
        (∀ earlier ∈ before, ∃ answer, f earlier = .ok answer) ∧ f item = .error e := by
  induction items with
  | nil => simp [pure, Except.pure]
  | cons first items induction =>
      rw [List.mapM_cons, bind_eq_error_iff]
      constructor
      · intro failed
        rcases failed with here | ⟨answer, answered, later⟩
        · exact ⟨[], first, items, rfl, nofun, here⟩
        · rcases bind_eq_error_iff.mp later with failed | ⟨others, _, impossible⟩
          · obtain ⟨before, item, after, rfl, passed, failed⟩ := induction.mp failed
            refine ⟨first :: before, item, after, rfl, ?_, failed⟩
            exact List.forall_mem_cons.mpr ⟨⟨answer, answered⟩, passed⟩
          · cases impossible
      · intro stops
        obtain ⟨before, item, after, split, passed, failed⟩ := stops
        cases before with
        | nil =>
            cases split
            exact .inl failed
        | cons other before =>
            cases split
            obtain ⟨⟨answer, answered⟩, others⟩ := List.forall_mem_cons.mp passed
            refine .inr ⟨answer, answered, bind_eq_error_iff.mpr (.inl ?_)⟩
            exact induction.mpr ⟨before, item, after, rfl, others, failed⟩

namespace Expanded

theorem joinPreambles_cons {parts : List String} (more : parts ≠ []) (part : String) :
    joinPreambles (part :: parts) = part ++ "\n\n" ++ joinPreambles parts := by
  rw [← String.toList_inj]
  have moreTexts : parts.map String.toList ≠ [] := by simpa using more
  simp [joinPreambles, String.toList_intercalate, List.intercalate_cons_of_ne_nil moreTexts]

end Expanded

namespace Template

theorem pieces_separated (first rest : List Char) :
    pieces (first ++ '\n' :: '\n' :: rest) =
      pieces first ++ .literal '\n' :: .literal '\n' :: pieces rest := by
  rw [pieces_append, pieces_literal, pieces_literal]
  · intro brace
    cases brace
  · intro brace
    cases brace
  · intro c first
    cases first
    decide

theorem mentions_separated (first rest : String) :
    mentions (first ++ "\n\n" ++ rest) = mentions first ++ mentions rest := by
  have whole : (first ++ "\n\n" ++ rest).toList = first.toList ++ '\n' :: '\n' :: rest.toList := by
    simp
  rw [mentions, whole, pieces_separated, List.filterMap_append]
  rfl

theorem interpolate_separated (values : String → Option String) (first rest : String) :
    interpolate values (first ++ "\n\n" ++ rest) = do
      let before ← interpolate values first
      let after ← interpolate values rest
      return before ++ "\n\n" ++ after := by
  unfold interpolate
  rw [find?_references, find?_references, find?_references, mentions_separated, List.find?_append]
  cases (mentions first).find? fun name => (values name).isNone with
  | some name => rfl
  | none =>
      cases (mentions rest).find? fun name => (values name).isNone with
      | some name => rfl
      | none =>
          have whole : (first ++ "\n\n" ++ rest).toList =
              first.toList ++ '\n' :: '\n' :: rest.toList := by
            simp
          rw [whole, pieces_separated, List.flatMap_append]
          simp only [Option.none_or]
          apply congrArg Except.ok
          rw [← String.toList_inj]
          simp [Piece.substitute]

/-- A whole whose placeholders are those of its parts, one part after another, and which is
filled in by filling in the parts. -/
structure Composes (parts : List String) (whole : String) : Prop where
  mentions : mentions whole = parts.flatMap Template.mentions
  references : FirstOccurrences (parts.flatMap Template.references) (references whole)
  answers : ∀ values result, interpolate values whole = .ok result ↔
    ∃ results, List.Forall₂ (fun part text => interpolate values part = .ok text) parts results ∧
      result = Expanded.joinPreambles results
  fails : ∀ values e, interpolate values whole = .error e ↔
    ∃ before part after, parts = before ++ part :: after ∧
      (∀ earlier ∈ before, ∃ text, interpolate values earlier = .ok text) ∧
      interpolate values part = .error e

theorem mentions_joinPreambles (parts : List String) :
    Template.mentions (Expanded.joinPreambles parts) = parts.flatMap Template.mentions := by
  induction parts with
  | nil => simp [Template.mentions, Expanded.joinPreambles, pieces]
  | cons part parts induction =>
      by_cases more : parts = []
      · subst more
        simp [Expanded.joinPreambles]
      · rw [Expanded.joinPreambles_cons more, mentions_separated, induction, List.flatMap_cons]

theorem interpolate_joinPreambles (values : String → Option String) (parts : List String) :
    interpolate values (Expanded.joinPreambles parts) =
      (parts.mapM (interpolate values)).map Expanded.joinPreambles := by
  induction parts with
  | nil =>
      unfold interpolate
      simp [references, Expanded.joinPreambles, pieces, pure, Except.pure, Except.map]
  | cons part parts induction =>
      rw [List.mapM_cons]
      by_cases more : parts = []
      · subst more
        cases answered : interpolate values part with
        | error e => simp [Expanded.joinPreambles, answered, Except.map, bind, Except.bind]
        | ok text =>
            simp [Expanded.joinPreambles, answered, Except.map, bind, Except.bind, pure, Except.pure]
      · rw [Expanded.joinPreambles_cons more, interpolate_separated, induction]
        cases interpolate values part with
        | error e => rfl
        | ok text =>
            cases answered : parts.mapM (interpolate values) with
            | error e => rfl
            | ok texts =>
                have moreTexts : texts ≠ [] := by
                  intro none
                  subst none
                  cases mapM_eq_ok_iff.mp answered
                  exact more rfl
                show Except.ok (text ++ "\n\n" ++ Expanded.joinPreambles texts) =
                  Except.ok (Expanded.joinPreambles (text :: texts))
                rw [Expanded.joinPreambles_cons moreTexts]

theorem composes_joinPreambles (parts : List String) :
    Composes parts (Expanded.joinPreambles parts) where
  mentions := mentions_joinPreambles parts
  references := by
    have same : Template.references (Expanded.joinPreambles parts) =
        (parts.flatMap Template.references).eraseDups := by
      show (Template.mentions _).eraseDups = _
      rw [mentions_joinPreambles, ← eraseDups_flatMap]
      rfl
    rw [same]
    exact firstOccurrences_eraseDups _
  answers := by
    intro values result
    rw [interpolate_joinPreambles, map_eq_ok_iff]
    constructor
    · intro joined
      obtain ⟨results, answered, rfl⟩ := joined
      exact ⟨results, mapM_eq_ok_iff.mp answered, rfl⟩
    · intro joined
      obtain ⟨results, answered, rfl⟩ := joined
      exact ⟨results, mapM_eq_ok_iff.mpr answered, rfl⟩
  fails := by
    intro values e
    rw [interpolate_joinPreambles, ← mapM_eq_error_iff]
    cases parts.mapM (interpolate values) with
    | error cause => simp [Except.map]
    | ok results => simp [Except.map]

end Template

namespace Expanded

variable {macros : MacroTable} {statement expanded : Statement}

/-- Expanding a call and filling in its placeholders can be done in either order: the
instruction of the expanded call is composed of the prompts along the chain, the innermost
first, and of the instruction of the call. -/
theorem expandCall_composes (isCall : Macro.isCall statement.text = true)
    (expands : expandCall macros statement = .ok expanded) :
    ∃ (form : CallForm) (preambles : List String) (invocation : Invocation),
      form.WellFormed ∧ statement.text.toList = '$' :: form.chars ∧
      macros.resolve (String.ofList form.name) = .ok (invocation.agentName, preambles) ∧
      Invocation.parse expanded.text = .ok invocation ∧
      Template.Composes (preambles ++ [String.ofList (unescapeQuotes form.body)])
        invocation.instruction := by
  obtain ⟨form, preambles, invocation, read, resolved, instruction, _, serialized, _⟩ :=
    expandCall_eq_ok expands
  obtain ⟨wellFormed, written⟩ := CallForm.read?_eq_some_iff.mp read
  refine ⟨form, preambles, invocation, wellFormed, ?_, resolved,
    Invocation.parse_of_serialize serialized, ?_⟩
  · rw [toList_of_isCall isCall, written]
  · rw [instruction]
    exact Template.composes_joinPreambles _

/-- Two macros whose prompts end and begin with half a placeholder. -/
def halfPlaceholders : MacroTable :=
  [⟨"m", "$n", "b\x7d \x7bc\x7d", .null, 1⟩, ⟨"n", "agent", "one \x7ba", .null, 2⟩]

theorem expandCall_composes_halves :
    ∃ expanded invocation,
      expandCall halfPlaceholders ⟨"$m:\"d\x7d\x7ba\x7d\\\"\x7b\":o", 3, none⟩ = .ok expanded ∧
      Invocation.parse expanded.text = .ok invocation ∧
      Template.Composes ["one \x7ba", "b\x7d \x7bc\x7d", "d\x7d\x7ba\x7d\"\x7b"]
        invocation.instruction := by
  have expandsTo : (expandCall halfPlaceholders
      ⟨"$m:\"d\x7d\x7ba\x7d\\\"\x7b\":o", 3, none⟩).toOption.isSome := by decide +kernel
  obtain ⟨expanded, found⟩ := Option.isSome_iff_exists.mp expandsTo
  have expands := toOption_eq_some_iff.mp found
  obtain ⟨form, preambles, invocation, wellFormed, written, resolved, parsed, composes⟩ :=
    expandCall_composes (by decide) expands
  have reads : CallForm.read? "m:\"d\x7d\x7ba\x7d\\\"\x7b\":o".toList = some form := by
    rw [← CallForm.read?_chars wellFormed]
    exact congrArg CallForm.read? (List.cons.inj written).2
  have sameForm : form = ⟨['m'], "d\x7d\x7ba\x7d\\\"\x7b".toList, some ['o']⟩ :=
    Option.some.inj (reads.symm.trans (by decide +kernel))
  subst sameForm
  have chain : (halfPlaceholders.resolve "m").toOption =
      some ("agent", ["one \x7ba", "b\x7d \x7bc\x7d"]) := by decide +kernel
  have samePreambles : preambles = ["one \x7ba", "b\x7d \x7bc\x7d"] := by
    have both := (toOption_eq_some_iff.mp chain).symm.trans resolved
    simp only [Except.ok.injEq, Prod.mk.injEq] at both
    exact both.2.symm
  subst samePreambles
  exact ⟨expanded, invocation, expands, parsed, composes⟩

end Expanded

end AgentFlow
