import AgentFlow.Proofs.Workflow.Invocation
import AgentFlow.Proofs.Workflow.Macro
import AgentFlow.Proofs.Workflow.MacroChain
import AgentFlow.Workflow.Expanded
import AgentFlow.Workflow.Variables

/-!
# Calls and their inlined form

A call of a macro means the invocation that a reader would write by hand: the agent at
the end of the chain, with the prompts of the chain in front of the instruction.  Every
rule of invocations is granted by the readers of definitions and calls, so writing the
invocation cannot fail once the chain is resolved.
-/

namespace AgentFlow

open AgentFlow.Text

namespace Macro

variable {text : List Char} {line : Int} {default : Value}

theorem isBase_of_ofText {definition : Macro}
    (defined : ofText text line default = .ok definition) : isBase definition.base = true := by
  obtain ⟨name, rest, block, fields, base, prompt, _, _, _, _, _, valid, rfl⟩ :=
    ofText_eq_ok_iff.mp defined
  exact valid

/-- A definition has a model of its own, which no default changes, or else the default. -/
theorem model_of_ofText {definition : Macro}
    (defined : ofText text line default = .ok definition) :
    definition.line = line ∧
      ((∀ other, ofText text line other = .ok definition) ∨
        definition.model = default ∧
          ∀ other, ofText text line other = .ok { definition with model := other }) := by
  obtain ⟨name, rest, block, fields, base, prompt, head, taken, read, basePresent,
    promptPresent, valid, rfl⟩ := ofText_eq_ok_iff.mp defined
  refine ⟨rfl, ?_⟩
  cases named : ((fields.lookup .model).getD []).isEmpty with
  | true =>
      refine .inr ⟨rfl, fun other => ofText_eq_ok_iff.mpr ?_⟩
      exact ⟨name, rest, block, fields, base, prompt, head, taken, read, basePresent,
        promptPresent, valid, by simp [named]⟩
  | false =>
      refine .inl fun other => ofText_eq_ok_iff.mpr ?_
      exact ⟨name, rest, block, fields, base, prompt, head, taken, read, basePresent,
        promptPresent, valid, by simp [named]⟩

theorem fault_of_readFields {macroName : String} {block cs : List Char} {fields : Fields}
    {fault : SyntaxFault} (failed : readFields macroName block fields cs = .error fault)
    (name : String) : fault ≠ .unquotableCall name := by
  fun_induction readFields macroName block fields cs with
  | case1 =>
      cases failed
      simp
  | case2 =>
      cases failed
      simp
  | case3 =>
      cases failed
      simp
  | case4 => cases failed
  | case5 fields cs key body rest taken field _ _ fieldsNow _ _ induction => exact induction failed
  | case6 =>
      cases failed
      simp

theorem fault_of_required {macroName : String} {fields : Fields} {field : Field}
    {fault : SyntaxFault} (failed : required macroName fields field = .error fault)
    (name : String) : fault ≠ .unquotableCall name := by
  unfold required at failed
  split at failed
  · cases failed
  · cases failed
    nofun

theorem fault_of_ofText {fault : SyntaxFault} (failed : ofText text line default = .error fault)
    (name : String) : fault ≠ .unquotableCall name := by
  unfold ofText at failed
  dsimp only at failed
  split at failed
  · cases failed
    nofun
  · split at failed
    · cases failed
      nofun
    · rcases bind_eq_error_iff.mp failed with failedFields | ⟨fields, _, failed⟩
      · exact fault_of_readFields failedFields name
      · rcases bind_eq_error_iff.mp failed with failedBase | ⟨base, _, failed⟩
        · exact fault_of_required failedBase name
        · rcases bind_eq_error_iff.mp failed with failedPrompt | ⟨prompt, _, failed⟩
          · exact fault_of_required failedPrompt name
          · split at failed
            · cases failed
            · cases failed
              nofun

end Macro

namespace Expanded

/-- The statement defines the macro, which has a model of its own or else the default. -/
structure Defines (default : Value) (statement : Statement) (definition : Macro) : Prop where
  parsed : Macro.parse statement.text statement.line default = .ok definition
  line : definition.line = statement.line
  model :
    (∀ other, Macro.parse statement.text statement.line other = .ok definition) ∨
      definition.model = default ∧
        ∀ other, Macro.parse statement.text statement.line other =
          .ok { definition with model := other }

/-- What a statement that defines no macro becomes. -/
inductive Inlines (macros : MacroTable) : Statement → Statement → Prop where
  | plain {statement : Statement} :
      Macro.isCall statement.text = false → Inlines macros statement statement
  | call {statement : Statement} {form : CallForm} {definition : Macro} {others : List Macro}
      {invocation : Invocation} {text : String}
      (isCall : Macro.isCall statement.text = true)
      (written : statement.text.toList = '$' :: form.chars)
      (wellFormed : form.WellFormed)
      (chain : macros.Chain (String.ofList form.name) (definition :: others) invocation.agentName)
      (instruction : invocation.instruction =
        joinPreambles ((definition :: others).reverse.map Macro.prompt ++
          [String.ofList (unescapeQuotes form.body)]))
      (output : invocation.output = form.output.map String.ofList)
      (serialized : invocation.serialize = .ok text)
      (parsed : Invocation.parse text = .ok invocation) :
      Inlines macros statement {
        text := text
        line := statement.line
        expansion := some {
          macroName := String.ofList form.name
          baseAgent := invocation.agentName
          output := invocation.output
          model := definition.model
          callText := statement.text
          line := statement.line
          definitionLine := definition.line } }

/-- The errors that expansion may end with.  A call that cannot be written is none. -/
inductive ExpansionError : Error → Prop where
  | malformed {fault : SyntaxFault} {place : Place} {text : String} :
      (∀ name, fault ≠ .unquotableCall name) → ExpansionError (.malformed fault place text)
  | unresolved {e : Error} : MacroTable.Unresolved e → ExpansionError e

/-! ## The definitions -/

theorem defines_of_ofText {default : Value} {statement : Statement} {definition : Macro}
    (defined : Macro.ofText (trim statement.text.toList) statement.line default =
      .ok definition) : Defines default statement definition := by
  obtain ⟨line, model⟩ := Macro.model_of_ofText defined
  exact {
    parsed := mapError_eq_ok_iff.mpr defined
    line := line
    model := model.imp (fun own other => mapError_eq_ok_iff.mpr (own other))
      (And.imp_right fun none other => mapError_eq_ok_iff.mpr (none other)) }

theorem name_notin_of_find?_eq_none {macros : MacroTable} {name : String}
    (notFound : macros.find? name = none) : name ∉ macros.map Macro.name := by
  intro member
  obtain ⟨definition, inTable, same⟩ := List.mem_map.mp member
  have absent := List.find?_eq_none.mp notFound definition inTable
  simp [same] at absent

/-- Collecting tells the definitions from the other statements and keeps both in order. -/
theorem collect_eq_ok {default : Value} {macros all : MacroTable}
    {statements remaining : List Statement}
    (collected : collect default macros statements = .ok (all, remaining))
    (distinct : (macros.map Macro.name).Nodup) :
    remaining = statements.filter (!Macro.isDefinition ·.text) ∧ (all.map Macro.name).Nodup ∧
      ∃ added, all = macros ++ added ∧
        List.Forall₂ (Defines default) (statements.filter (Macro.isDefinition ·.text)) added := by
  induction statements generalizing macros remaining with
  | nil =>
      cases collected
      exact ⟨rfl, distinct, [], (List.append_nil _).symm, .nil⟩
  | cons statement rest induction =>
      unfold collect at collected
      split at collected
      · rename_i isDefinition
        split at collected
        · cases collected
        · rename_i definition defined
          split at collected
          · cases collected
          · rename_i notFound
            have isNew := name_notin_of_find?_eq_none notFound
            have distinctNow : ((macros ++ [definition]).map Macro.name).Nodup := by
              rw [List.map_append]
              exact Variables.nodup_append_new distinct isNew
            obtain ⟨rfl, distinctAll, added, rfl, defines⟩ := induction collected distinctNow
            refine ⟨by simp [isDefinition], distinctAll, definition :: added, by simp, ?_⟩
            have definesAll := List.Forall₂.cons (defines_of_ofText defined) defines
            simpa [isDefinition] using definesAll
      · rename_i noDefinition
        obtain ⟨⟨others, kept⟩, collectedRest, same⟩ := map_eq_ok_iff.mp collected
        cases same
        obtain ⟨rfl, distinctAll, added, rfl, defines⟩ := induction collectedRest distinct
        refine ⟨by simp [noDefinition], distinctAll, added, rfl, ?_⟩
        simpa [noDefinition] using defines

theorem expansionError_of_collect {default : Value} {macros : MacroTable}
    {statements : List Statement} {e : Error}
    (failed : collect default macros statements = .error e) : ExpansionError e := by
  induction statements generalizing macros with
  | nil => cases failed
  | cons statement rest induction =>
      unfold collect at failed
      split at failed
      · split at failed
        · rename_i fault refused
          cases failed
          exact .malformed (Macro.fault_of_ofText refused)
        · split at failed
          · cases failed
            exact .malformed nofun
          · exact induction failed
      · cases collected : collect default macros rest with
        | ok answer =>
            rw [collected] at failed
            cases failed
        | error cause =>
            rw [collected] at failed
            cases failed
            exact induction collected

/-! ## The calls -/

theorem toList_joinPreambles_concat (pieces : List String) (last : String) :
    ∃ front, (joinPreambles (pieces ++ [last])).toList = front ++ last.toList := by
  unfold joinPreambles
  rw [String.toList_intercalate, List.map_append]
  induction pieces with
  | nil => exact ⟨[], by simp⟩
  | cons piece pieces induction =>
      obtain ⟨front, joined⟩ := induction
      rw [List.map_cons, List.cons_append, List.intercalate_cons_of_ne_nil (by simp), joined]
      exact ⟨_, (List.append_assoc _ front last.toList).symm⟩

/-- An instruction that comes from a call can be quoted again, whatever goes in front. -/
theorem endsWithBackslash_joinPreambles {pieces : List String} {body : List Char}
    (quoted : QuotedBody body) (nonempty : unescapeQuotes body ≠ []) :
    endsWithBackslash (joinPreambles (pieces ++ [String.ofList (unescapeQuotes body)])).toList =
      false := by
  obtain ⟨front, joined⟩ :=
    toList_joinPreambles_concat pieces (String.ofList (unescapeQuotes body))
  rw [joined, String.toList_ofList, endsWithBackslash, List.getLast?_append_of_ne_nil _ nonempty]
  exact quoted.endsWithBackslash_unescapeQuotes

theorem joinPreambles_ne_empty (pieces : List String) {last : List Char} (nonempty : last ≠ []) :
    joinPreambles (pieces ++ [String.ofList last]) ≠ "" := by
  obtain ⟨front, joined⟩ := toList_joinPreambles_concat pieces (String.ofList last)
  intro empty
  rw [empty] at joined
  have bothEmpty := List.append_eq_nil_iff.mp joined.symm
  exact nonempty (by simpa using bothEmpty.2)

theorem toList_of_isCall {text : String} (isCall : Macro.isCall text = true) :
    text.toList = '$' :: text.toList.drop 1 := by
  simp only [Macro.isCall, Bool.and_eq_true, beq_iff_eq] at isCall
  obtain ⟨rest, whole⟩ := List.head?_eq_some_iff.mp isCall.1
  rw [whole]
  rfl

variable {macros : MacroTable} {statement expanded : Statement}

/-- What a call is expanded from and to. -/
theorem expandCall_eq_ok (expandedCall : expandCall macros statement = .ok expanded) :
    ∃ (form : CallForm) (preambles : List String) (invocation : Invocation),
      CallForm.read? (statement.text.toList.drop 1) = some form ∧
      macros.resolve (String.ofList form.name) = .ok (invocation.agentName, preambles) ∧
      invocation.instruction =
        joinPreambles (preambles ++ [String.ofList (unescapeQuotes form.body)]) ∧
      invocation.output = form.output.map String.ofList ∧
      invocation.serialize = .ok expanded.text ∧
      expanded = {
        text := expanded.text
        line := statement.line
        expansion := some {
          macroName := String.ofList form.name
          baseAgent := invocation.agentName
          output := invocation.output
          model := ((macros.find? (String.ofList form.name)).map Macro.model).getD .null
          callText := statement.text
          line := statement.line
          definitionLine := ((macros.find? (String.ofList form.name)).map Macro.line).getD 0 } } := by
  unfold expandCall at expandedCall
  dsimp only at expandedCall
  split at expandedCall
  · cases expandedCall
  · rename_i form read
    split at expandedCall
    · cases expandedCall
    · obtain ⟨⟨agent, preambles⟩, resolved, expandedCall⟩ := bind_eq_ok_iff.mp expandedCall
      obtain ⟨invocation, made, expandedCall⟩ := bind_eq_ok_iff.mp expandedCall
      split at expandedCall
      · cases expandedCall
      · rename_i text serialized
        cases expandedCall
        obtain ⟨rfl, instruction, output⟩ :=
          Invocation.make?_eq_ok_iff.mp (mapError_eq_ok_iff.mp made)
        exact ⟨form, preambles, invocation, read, mapError_eq_ok_iff.mp resolved, instruction,
          output, serialized, by rw [output]⟩

theorem inlines_of_expandCall (isCall : Macro.isCall statement.text = true)
    (expandedCall : expandCall macros statement = .ok expanded) :
    Inlines macros statement expanded := by
  obtain ⟨form, preambles, invocation, read, resolved, instruction, output, serialized, whole⟩ :=
    expandCall_eq_ok expandedCall
  obtain ⟨wellFormed, written⟩ := CallForm.read?_eq_some_iff.mp read
  obtain ⟨chain, leads, rfl⟩ := MacroTable.chain_of_resolve resolved
  obtain ⟨definition, others, rfl, found⟩ := leads.head
  rw [whole, found]
  exact .call isCall (by rw [toList_of_isCall isCall, written]) wellFormed leads instruction
    output serialized (Invocation.parse_of_serialize serialized)

/-- A call fails by its form or its chain, and never after that. -/
theorem expansionError_of_expandCall
    (bases : ∀ definition ∈ macros, Macro.isBase definition.base = true) {e : Error}
    (failed : expandCall macros statement = .error e) : ExpansionError e := by
  unfold expandCall at failed
  dsimp only at failed
  split at failed
  · cases failed
    exact .malformed nofun
  · rename_i form read
    obtain ⟨wellFormed, _⟩ := CallForm.read?_eq_some_iff.mp read
    split at failed
    · cases failed
      exact .malformed nofun
    · rename_i nonempty
      have valueNonempty : unescapeQuotes form.body ≠ [] := by simpa using nonempty
      rcases bind_eq_error_iff.mp failed with unresolved | ⟨⟨agent, preambles⟩, resolved, failed⟩
      · obtain ⟨cause, failedChain, rfl⟩ := mapError_eq_error_iff.mp unresolved
        exact .unresolved ((MacroTable.unresolved_of_resolve failedChain).placedAt _)
      · obtain ⟨chain, leads, rfl⟩ := MacroTable.chain_of_resolve (mapError_eq_ok_iff.mp resolved)
        obtain ⟨last, inTable, rfl, noLink⟩ := leads.exists_base
        have agentValid : isIdentifier last.base = true := by
          have valid := bases last inTable
          rwa [Macro.isBase, noLink] at valid
        rcases bind_eq_error_iff.mp failed with refused | ⟨invocation, made, failed⟩
        · obtain ⟨invocation, made⟩ := Invocation.exists_make? agentValid
            (joinPreambles_ne_empty (chain.reverse.map Macro.prompt) valueNonempty)
            wellFormed.isIdentifier_output
          rw [made] at refused
          cases refused
        · obtain ⟨_, instruction, _⟩ := Invocation.make?_eq_ok_iff.mp (mapError_eq_ok_iff.mp made)
          rw [Invocation.serialize_eq, instruction,
            endsWithBackslash_joinPreambles wellFormed.body valueNonempty] at failed
          cases failed

theorem inlines_of_expandStatement (expandedOne : expandStatement macros statement = .ok expanded) :
    Inlines macros statement expanded := by
  unfold expandStatement at expandedOne
  split at expandedOne
  · rename_i isCall
    exact inlines_of_expandCall isCall expandedOne
  · rename_i noCall
    cases expandedOne
    exact .plain (Bool.eq_false_iff.mpr noCall)

theorem inlines_of_expandAll {statements expandedAll : List Statement}
    (expandedEach : expandAll macros statements = .ok expandedAll) :
    List.Forall₂ (Inlines macros) statements expandedAll := by
  induction statements generalizing expandedAll with
  | nil =>
      cases expandedEach
      exact .nil
  | cons statement rest induction =>
      unfold expandAll at expandedEach
      obtain ⟨first, expandedFirst, expandedEach⟩ := bind_eq_ok_iff.mp expandedEach
      obtain ⟨others, expandedRest, expandedEach⟩ := bind_eq_ok_iff.mp expandedEach
      cases expandedEach
      exact .cons (inlines_of_expandStatement expandedFirst) (induction expandedRest)

theorem expansionError_of_expandAll
    (bases : ∀ definition ∈ macros, Macro.isBase definition.base = true) {e : Error}
    {statements : List Statement} (failed : expandAll macros statements = .error e) :
    ExpansionError e := by
  induction statements with
  | nil => cases failed
  | cons statement rest induction =>
      unfold expandAll at failed
      rcases bind_eq_error_iff.mp failed with failedFirst | ⟨first, _, failed⟩
      · unfold expandStatement at failedFirst
        split at failedFirst
        · exact expansionError_of_expandCall bases failedFirst
        · cases failedFirst
      · rcases bind_eq_error_iff.mp failed with failedRest | ⟨others, _, failed⟩
        · exact induction failedRest
        · cases failed

/-! ## The whole source -/

theorem exists_defines {default : Value} {statements : List Statement} {macros : MacroTable}
    (defines : List.Forall₂ (Defines default) statements macros) :
    ∀ definition ∈ macros, ∃ statement ∈ statements, Defines default statement definition := by
  induction defines with
  | nil => nofun
  | cons first _ induction =>
      refine List.forall_mem_cons.mpr ⟨⟨_, List.mem_cons_self, first⟩, ?_⟩
      intro definition member
      obtain ⟨statement, inRest, defined⟩ := induction definition member
      exact ⟨statement, List.mem_cons_of_mem _ inRest, defined⟩

theorem Defines.isBase {default : Value} {statement : Statement} {definition : Macro}
    (defines : Defines default statement definition) : Macro.isBase definition.base = true :=
  Macro.isBase_of_ofText (mapError_eq_ok_iff.mp defines.parsed)

theorem Defines.prompt_subset {default : Value} {statement : Statement} {definition : Macro}
    (defines : Defines default statement definition) :
    definition.prompt.toList ⊆ statement.text.toList := by
  have defined := mapError_eq_ok_iff.mp defines.parsed
  exact List.Subset.trans (Macro.prompt_subset_of_ofText defined) (trim_subset _)

/-- The macros are those that the source defines, and the statements are its others with the
calls inlined. -/
theorem inlines_of_ofSource {source : String} {default : Value} {expanded : Expanded}
    (expands : ofSource source default = .ok expanded) :
    List.Forall₂ (Defines default)
        ((Statement.split source).filter (Macro.isDefinition ·.text)) expanded.macros ∧
      (expanded.macros.map Macro.name).Nodup ∧
      List.Forall₂ (Inlines expanded.macros)
        ((Statement.split source).filter (!Macro.isDefinition ·.text)) expanded.statements := by
  unfold ofSource at expands
  obtain ⟨⟨macros, remaining⟩, collected, expands⟩ := bind_eq_ok_iff.mp expands
  obtain ⟨statements, expandedEach, expands⟩ := bind_eq_ok_iff.mp expands
  cases expands
  obtain ⟨rfl, distinct, added, rfl, defines⟩ := collect_eq_ok collected .nil
  exact ⟨defines, distinct, inlines_of_expandAll expandedEach⟩

theorem expansionError_of_ofSource {source : String} {default : Value} {e : Error}
    (failed : ofSource source default = .error e) : ExpansionError e := by
  unfold ofSource at failed
  rcases bind_eq_error_iff.mp failed with failed | ⟨⟨macros, remaining⟩, collected, failed⟩
  · exact expansionError_of_collect failed
  · obtain ⟨_, _, added, rfl, defines⟩ := collect_eq_ok collected .nil
    rcases bind_eq_error_iff.mp failed with failed | ⟨statements, _, failed⟩
    · refine expansionError_of_expandAll ?_ failed
      intro definition member
      obtain ⟨statement, _, defined⟩ := exists_defines defines definition member
      exact defined.isBase
    · cases failed

/-- Expansion inlines the calls of a source as one would by hand, statement by statement,
or reports a fault of a definition, of a call or of a chain. -/
theorem ofSource_inlines (source : String) (default : Value) :
    match ofSource source default with
    | .ok expanded =>
      List.Forall₂ (Defines default)
          ((Statement.split source).filter (Macro.isDefinition ·.text)) expanded.macros ∧
        (expanded.macros.map Macro.name).Nodup ∧
        List.Forall₂ (Inlines expanded.macros)
          ((Statement.split source).filter (!Macro.isDefinition ·.text)) expanded.statements
    | .error e => ExpansionError e := by
  cases result : ofSource source default with
  | ok expanded => exact inlines_of_ofSource result
  | error e => exact expansionError_of_ofSource result

example :
    (ofSource "$n:\"x\":v\n$n := \x7b base: \"$m\", prompt: \"two\" \x7d\n$m := \x7b base: \"b\", prompt: \"one\" \x7d"
      defaultModel).toOption.map Expanded.text = some "b:\"one\n\ntwo\n\nx\":v" := by
  decide +kernel

end Expanded

end AgentFlow
