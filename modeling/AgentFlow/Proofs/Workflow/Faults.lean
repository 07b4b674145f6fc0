import AgentFlow.Proofs.Workflow.FirstFault
import AgentFlow.Proofs.Workflow.Inlining
import AgentFlow.Proofs.Workflow.Trail
import Mathlib.Data.List.Forall2
import Mathlib.Data.List.Nodup

/-!
# Faults of definitions and calls

What is wrong with a definition is told from the statements before it, and what is wrong
with a call from the whole table of macros.  Expanding a source reports the first fault
of a definition, or else the first fault of a call.
-/

namespace AgentFlow

open AgentFlow.Text

namespace Macro

theorem parse_eq_error_iff {text : String} {line : Int} {default : Value} {e : Error} :
    parse text line default = .error e ↔
      ∃ fault, ofText (trim text.toList) line default = .error fault ∧
        .malformed fault .unplaced text = e :=
  mapError_eq_error_iff

end Macro

namespace MacroTable

theorem find?_eq_some_iff {macros : MacroTable} (distinct : (macros.map Macro.name).Nodup)
    {name : String} {definition : Macro} :
    find? macros name = some definition ↔ definition ∈ macros ∧ definition.name = name := by
  constructor
  · exact mem_of_find?
  · rintro ⟨member, rfl⟩
    cases found : find? macros definition.name with
    | none =>
        have absent := List.find?_eq_none.mp found definition member
        simp at absent
    | some other =>
        obtain ⟨otherMember, sameName⟩ := mem_of_find? found
        rw [List.inj_on_of_nodup_map distinct otherMember member sameName]

end MacroTable

namespace Expanded

/-- The statements among which the definitions are read as these macros, no two of one name. -/
structure Defined (default : Value) (statements : List Statement) (macros : MacroTable) : Prop where
  defines : List.Forall₂ (Defines default) (statements.filter (Macro.isDefinition ·.text)) macros
  distinct : (macros.map Macro.name).Nodup

/-- What is wrong with a definition that stands behind some statements. -/
inductive DefinitionFault (default : Value) (earlier : List Statement) (statement : Statement) :
    Error → Prop where
  | malformed {fault : SyntaxFault} {text : String} :
      Macro.isDefinition statement.text = true →
      Macro.parse statement.text statement.line default = .error (.malformed fault .unplaced text) →
      DefinitionFault default earlier statement
        (.malformed fault (.line statement.line) statement.text)
  | redefined {definition before : Macro} {first : Statement} :
      Macro.isDefinition statement.text = true →
      Macro.parse statement.text statement.line default = .ok definition →
      first ∈ earlier → Macro.isDefinition first.text = true →
      Macro.parse first.text first.line default = .ok before →
      before.name = definition.name →
      DefinitionFault default earlier statement
        (.malformed (.redefined definition.name first.line) (.line statement.line) statement.text)

/-- What is wrong with a call. -/
inductive CallFault (macros : MacroTable) (statement : Statement) : Error → Prop where
  | malformed :
      (∀ form : CallForm, form.WellFormed → statement.text.toList ≠ '$' :: form.chars) →
      CallFault macros statement
        (.malformed (.call statement.text) (.line statement.line) statement.text)
  | empty {form : CallForm} :
      form.WellFormed → statement.text.toList = '$' :: form.chars → unescapeQuotes form.body = [] →
      CallFault macros statement
        (.malformed (.emptyCall (String.ofList form.name) statement.text) (.line statement.line)
          statement.text)
  | unresolved {form : CallForm} {e : Error} :
      form.WellFormed → statement.text.toList = '$' :: form.chars → unescapeQuotes form.body ≠ [] →
      macros.LeadsAstray (String.ofList form.name) e →
      CallFault macros statement (e.placedAt (.line statement.line))

/-- A call with something wrong. -/
structure FaultyCall (macros : MacroTable) (statement : Statement) (e : Error) : Prop where
  isCall : Macro.isCall statement.text = true
  fault : CallFault macros statement e

/-! ## The definitions -/

variable {default : Value} {macros : MacroTable} {statement : Statement}

theorem exists_defined {statements : List Statement}
    (defines : List.Forall₂ (Defines default) statements macros) :
    ∀ statement ∈ statements, ∃ definition ∈ macros, Defines default statement definition := by
  induction defines with
  | nil => nofun
  | cons first _ induction =>
      refine List.forall_mem_cons.mpr ⟨⟨_, List.mem_cons_self, first⟩, ?_⟩
      intro statement inRest
      obtain ⟨definition, member, defined⟩ := induction statement inRest
      exact ⟨definition, List.mem_cons_of_mem _ member, defined⟩

theorem Defined.isBase {statements : List Statement} (defined : Defined default statements macros) :
    ∀ definition ∈ macros, Macro.isBase definition.base = true := by
  intro definition member
  obtain ⟨_, _, defines⟩ := exists_defines defined.defines definition member
  exact defines.isBase

theorem Defined.concat_other {before : List Statement} (defined : Defined default before macros)
    (noDefinition : Macro.isDefinition statement.text = false) :
    Defined default (before ++ [statement]) macros where
  defines := by simpa [List.filter_append, noDefinition] using defined.defines
  distinct := defined.distinct

theorem Defined.concat {before : List Statement} {definition : Macro}
    (defined : Defined default before macros)
    (isDefinition : Macro.isDefinition statement.text = true)
    (defines : Defines default statement definition)
    (isNew : definition.name ∉ macros.map Macro.name) :
    Defined default (before ++ [statement]) (macros ++ [definition]) where
  defines := by
    rw [List.filter_append]
    refine List.rel_append defined.defines ?_
    simpa [isDefinition] using defines
  distinct := by
    rw [List.map_append]
    exact Variables.nodup_append_new defined.distinct isNew

/-- A macro is in the table just when a statement before defines it. -/
theorem Defined.mem_iff {before : List Statement} (defined : Defined default before macros)
    {definition : Macro} :
    definition ∈ macros ↔
      ∃ first ∈ before, Macro.isDefinition first.text = true ∧
        Macro.parse first.text first.line default = .ok definition := by
  constructor
  · intro member
    obtain ⟨first, inFilter, defines⟩ := exists_defines defined.defines definition member
    obtain ⟨inBefore, isDefinition⟩ := List.mem_filter.mp inFilter
    exact ⟨first, inBefore, isDefinition, defines.parsed⟩
  · rintro ⟨first, inBefore, isDefinition, parsed⟩
    have inFilter : first ∈ before.filter (Macro.isDefinition ·.text) :=
      List.mem_filter.mpr ⟨inBefore, isDefinition⟩
    obtain ⟨other, member, defines⟩ := exists_defined defined.defines first inFilter
    cases parsed.symm.trans defines.parsed
    exact member

/-- Collecting fails at the first fault of a definition. -/
theorem stopsAtFault_collect (default : Value) :
    StopsAtFault (DefinitionFault default) (Defined default) (collect default) where
  nil _ _ failed := by cases failed
  faulty := by
    intro before macros statement e defined faulty rest
    cases faulty with
    | malformed isDefinition failed =>
        obtain ⟨fault, refused, same⟩ := Macro.parse_eq_error_iff.mp failed
        cases same
        simp only [collect, isDefinition, if_true, refused]
    | @redefined definition other first isDefinition parsed inBefore firstIsDefinition firstParsed
        sameName =>
        have member := defined.mem_iff.mpr ⟨first, inBefore, firstIsDefinition, firstParsed⟩
        have found := (MacroTable.find?_eq_some_iff defined.distinct).mpr ⟨member, sameName⟩
        have line : other.line = first.line :=
          (Macro.model_of_ofText (mapError_eq_ok_iff.mp firstParsed)).1
        simp only [collect, isDefinition, if_true, mapError_eq_ok_iff.mp parsed, found, line]
  passes := by
    intro before macros statement defined faultless
    cases isDefinition : Macro.isDefinition statement.text with
    | false =>
        refine ⟨macros, defined.concat_other isDefinition, ?_⟩
        intro rest e
        cases collected : collect default macros rest <;> simp [collect, isDefinition, collected, Except.map]
    | true =>
        cases read : Macro.ofText (trim statement.text.toList) statement.line default with
        | error fault =>
            have failed := Macro.parse_eq_error_iff.mpr ⟨fault, read, rfl⟩
            exact absurd (.malformed isDefinition failed) (faultless _)
        | ok definition =>
            have defines := defines_of_ofText read
            cases found : macros.find? definition.name with
            | some other =>
                obtain ⟨member, sameName⟩ := MacroTable.mem_of_find? found
                obtain ⟨first, inBefore, firstIsDefinition, firstParsed⟩ := defined.mem_iff.mp member
                exact absurd (.redefined isDefinition defines.parsed inBefore firstIsDefinition
                  firstParsed sameName) (faultless _)
            | none =>
                have isNew := name_notin_of_find?_eq_none found
                refine ⟨macros ++ [definition], defined.concat isDefinition defines isNew, ?_⟩
                intro rest e
                simp only [collect, isDefinition, if_true, read, found]

theorem Defined.nil (default : Value) : Defined default [] [] :=
  ⟨.nil, List.nodup_nil⟩

/-- What collecting gives are the macros that the statements define. -/
theorem defined_of_collect {statements remaining : List Statement}
    (collected : collect default [] statements = .ok (macros, remaining)) :
    Defined default statements macros ∧
      remaining = statements.filter (!Macro.isDefinition ·.text) := by
  obtain ⟨others, distinct, added, rfl, defines⟩ := collect_eq_ok collected .nil
  exact ⟨⟨defines, distinct⟩, others⟩

theorem collect_of_defines {statements : List Statement} {added : MacroTable}
    (defines : List.Forall₂ (Defines default) (statements.filter (Macro.isDefinition ·.text)) added)
    (distinct : ((macros ++ added).map Macro.name).Nodup) :
    collect default macros statements =
      .ok (macros ++ added, statements.filter (!Macro.isDefinition ·.text)) := by
  induction statements generalizing macros added with
  | nil =>
      cases defines
      rw [List.append_nil]
      rfl
  | cons statement rest induction =>
      cases isDefinition : Macro.isDefinition statement.text with
      | false =>
          simp only [List.filter_cons, isDefinition, Bool.false_eq_true, if_false] at defines
          simp [collect, isDefinition, induction defines distinct, Except.map]
      | true =>
          simp only [List.filter_cons, isDefinition, if_true] at defines
          cases defines with
          | @cons _ definition _ others first later =>
              rw [List.append_cons] at distinct ⊢
              have isNew : macros.find? definition.name = none := by
                rw [MacroTable.find?, List.find?_eq_none]
                intro other member
                rw [List.map_append, List.map_append] at distinct
                have apart := (List.nodup_append.mp distinct.of_append_left).2.2
                simpa using apart other.name (List.mem_map_of_mem member) definition.name (by simp)
              simp [collect, isDefinition, mapError_eq_ok_iff.mp first.parsed, isNew,
                induction later distinct]

/-- Well-formed definitions of distinct names are collected. -/
theorem collect_of_defined {statements : List Statement}
    (defined : Defined default statements macros) :
    collect default [] statements =
      .ok (macros, statements.filter (!Macro.isDefinition ·.text)) :=
  collect_of_defines defined.defines defined.distinct

/-! ## The calls -/

/-- A call fails just by its form or its chain. -/
theorem expandCall_eq_error_iff
    (bases : ∀ definition ∈ macros, Macro.isBase definition.base = true)
    (isCall : Macro.isCall statement.text = true) {e : Error} :
    expandCall macros statement = .error e ↔ CallFault macros statement e := by
  have whole := toList_of_isCall isCall
  constructor
  · intro failed
    have known := expansionError_of_expandCall bases failed
    unfold expandCall at failed
    dsimp only at failed
    split at failed
    · rename_i unread
      cases failed
      refine .malformed ?_
      intro form wellFormed written
      rw [whole, List.cons.injEq] at written
      rw [CallForm.read?_eq_some_iff.mpr ⟨wellFormed, written.2⟩] at unread
      cases unread
    · rename_i form read
      obtain ⟨wellFormed, chars⟩ := CallForm.read?_eq_some_iff.mp read
      have written : statement.text.toList = '$' :: form.chars := by rw [whole, chars]
      split at failed
      · rename_i isEmpty
        cases failed
        exact .empty wellFormed written (List.isEmpty_iff.mp isEmpty)
      · rename_i nonempty
        have valueNonempty : unescapeQuotes form.body ≠ [] := by simpa using nonempty
        rcases bind_eq_error_iff.mp failed with unresolved | ⟨_, _, failed⟩
        · obtain ⟨cause, failedChain, rfl⟩ := mapError_eq_error_iff.mp unresolved
          exact .unresolved wellFormed written valueNonempty
            (MacroTable.resolve_eq_error_iff.mp failedChain)
        -- Behind the chain only errors are left that no call ends with.
        · rcases bind_eq_error_iff.mp failed with refused | ⟨_, _, failed⟩
          · obtain ⟨cause, _, rfl⟩ := mapError_eq_error_iff.mp refused
            cases known with
            | unresolved isUnresolved => cases isUnresolved
          · split at failed
            · cases failed
              cases known with
              | malformed isOther => exact absurd rfl (isOther _)
              | unresolved isUnresolved => cases isUnresolved
            · cases failed
  · intro faulty
    unfold expandCall
    dsimp only
    cases faulty with
    | malformed unwritten =>
        cases read : CallForm.read? (statement.text.toList.drop 1) with
        | none => rfl
        | some form =>
            obtain ⟨wellFormed, chars⟩ := CallForm.read?_eq_some_iff.mp read
            exact absurd (by rw [whole, chars]) (unwritten form wellFormed)
    | empty wellFormed written isEmpty =>
        have read := CallForm.read?_chars wellFormed
        simp only [written, List.drop_succ_cons, List.drop_zero, read, isEmpty]
        rfl
    | unresolved wellFormed written nonempty astray =>
        have read := CallForm.read?_chars wellFormed
        have valueNonempty := List.isEmpty_eq_false_iff.mpr nonempty
        simp only [written, List.drop_succ_cons, List.drop_zero, read, valueNonempty,
          astray.resolve_eq]
        rfl

/-- Expanding all statements fails at the first call with a fault. -/
theorem stopsAtFault_expandAll
    (bases : ∀ definition ∈ macros, Macro.isBase definition.base = true) :
    StopsAtFault (fun _ => FaultyCall macros) (fun _ _ => True)
      (fun _ : Unit => expandAll macros) where
  nil _ _ failed := by cases failed
  faulty := by
    rintro before _ statement e _ ⟨isCall, faulty⟩ rest
    have failed := (expandCall_eq_error_iff bases isCall).mpr faulty
    simp only [expandAll, expandStatement, isCall, if_true, failed]
    rfl
  passes := by
    intro before _ statement _ faultless
    refine ⟨(), trivial, ?_⟩
    intro rest e
    have expands : ∃ expanded, expandStatement macros statement = .ok expanded := by
      unfold expandStatement
      split
      · rename_i isCall
        cases result : expandCall macros statement with
        | ok expanded => exact ⟨expanded, rfl⟩
        | error cause =>
            have faulty := (expandCall_eq_error_iff bases isCall).mp result
            exact absurd ⟨isCall, faulty⟩ (faultless cause)
      · exact ⟨statement, rfl⟩
    obtain ⟨expanded, expands⟩ := expands
    rw [expandAll, expands]
    refine bind_eq_error_iff.trans ?_
    simp [bind_eq_error_iff]

theorem expandAll_eq_error_iff
    (bases : ∀ definition ∈ macros, Macro.isBase definition.base = true)
    {statements : List Statement} {e : Error} :
    expandAll macros statements = .error e ↔
      ∃ offender, FirstFault (fun _ => FaultyCall macros) [] statements offender e :=
  (stopsAtFault_expandAll bases).eq_error_iff () trivial statements e

/-! ## The whole source -/

/-- Expanding a source fails at the first fault of a definition, or else of a call. -/
theorem ofSource_eq_error_iff {source : String} {e : Error} :
    ofSource source default = .error e ↔
      (∃ offender, FirstFault (DefinitionFault default) [] (Statement.split source) offender e) ∨
      ∃ macros offender, Defined default (Statement.split source) macros ∧
        FirstFault (fun _ => FaultyCall macros) []
          ((Statement.split source).filter (!Macro.isDefinition ·.text)) offender e := by
  unfold ofSource
  rw [bind_eq_error_iff,
    (stopsAtFault_collect default).eq_error_iff [] (.nil default) (Statement.split source) e]
  refine or_congr_right ?_
  constructor
  · rintro ⟨⟨macros, remaining⟩, collected, failed⟩
    obtain ⟨defined, rfl⟩ := defined_of_collect collected
    rcases bind_eq_error_iff.mp failed with failed | ⟨_, _, failed⟩
    · obtain ⟨offender, first⟩ := (expandAll_eq_error_iff defined.isBase).mp failed
      exact ⟨macros, offender, defined, first⟩
    · cases failed
  · rintro ⟨macros, offender, defined, first⟩
    have failed := (expandAll_eq_error_iff defined.isBase).mpr ⟨offender, first⟩
    exact ⟨_, collect_of_defined defined, bind_eq_error_iff.mpr (.inl failed)⟩

end Expanded

end AgentFlow
