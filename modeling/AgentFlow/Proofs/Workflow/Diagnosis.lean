import AgentFlow.Proofs.Workflow.Faults
import AgentFlow.Proofs.Workflow.Recompilation
import AgentFlow.Proofs.Workflow.StepFaults

/-!
# The diagnosis of a source

A source is refused for the first fault of a definition, or else for the first fault of a
call, or else for the first fault of an expanded statement; a source without any of these
compiles.  Whatever the fault is, the message starts with the line of the statement that
is at fault.
-/

namespace AgentFlow

open AgentFlow.Number AgentFlow.Text

/-- The place lies in the statement that starts on a line. -/
inductive Place.IsAt (line : Nat) : Place → Prop where
  | line : IsAt line (.line line)
  | expanded {macroName : String} {definitionLine : Int} :
      IsAt line (.expanded line macroName definitionLine)

/-- A message that starts with a line, and with the macro behind it if there is one. -/
inductive NamesLine (line : Nat) : String → Prop where
  | plain (rest : String) : NamesLine line ("line " ++ integerText line ++ ": " ++ rest)
  | expanded (rest : String) :
      NamesLine line ("line " ++ integerText line ++ " (expanded from macro '$" ++ rest)

theorem NamesLine.append {line : Nat} {message : String} (names : NamesLine line message)
    (rest : String) : NamesLine line (message ++ rest) := by
  cases names with
  | plain before =>
      rw [String.append_assoc]
      exact .plain (before ++ rest)
  | expanded before =>
      rw [String.append_assoc]
      exact .expanded (before ++ rest)

theorem Place.IsAt.namesLine {line : Nat} {place : Place} (isAt : place.IsAt line) :
    NamesLine line place.label := by
  cases isAt with
  | line =>
      have starts : NamesLine line _ := .plain ""
      simpa [Place.label, Place.origin] using starts
  | @expanded macroName definitionLine =>
      have starts : NamesLine line _ :=
        .expanded (macroName ++ "' defined on line " ++ integerText definitionLine ++ "): ")
      simpa [Place.label, Place.origin, String.append_assoc] using starts

/-- The message of an error at a place starts with the line of the place. -/
inductive Error.IsPlaced (line : Nat) : Error → Prop where
  | malformed {fault : SyntaxFault} {place : Place} {text : String} :
      place.IsAt line → IsPlaced line (.malformed fault place text)
  | unknownAgent {name : String} {place : Place} :
      place.IsAt line → IsPlaced line (.unknownAgent name place)
  | undefinedVariable {name : String} {place : Place} :
      place.IsAt line → IsPlaced line (.undefinedVariable name place)
  | duplicateOutput {name : String} {place : Place} {firstLine : Nat} :
      place.IsAt line → IsPlaced line (.duplicateOutput name place firstLine)
  | undefinedMacro {name : String} {place : Place} {available : List String} :
      place.IsAt line → IsPlaced line (.undefinedMacro name place available)
  | circularMacro {name : String} {place : Place} {chain : List String} :
      place.IsAt line → IsPlaced line (.circularMacro name place chain)

theorem Error.IsPlaced.namesLine {line : Nat} {e : Error} (isPlaced : e.IsPlaced line) :
    NamesLine line e.message := by
  cases isPlaced with
  | malformed isAt => exact isAt.namesLine.append _
  | unknownAgent isAt => exact ((isAt.namesLine.append _).append _).append _
  | @undefinedVariable name _ isAt =>
      -- Only an error without a place has another text.
      have names := ((isAt.namesLine.append "Variable not found: ").append name).append
        " (no earlier invocation captures it)"
      cases isAt with
      | line => exact names
      | expanded => exact names
  | duplicateOutput isAt => exact ((((isAt.namesLine.append _).append _).append _).append _).append _
  | undefinedMacro isAt => exact (((isAt.namesLine.append _).append _).append _).append _
  | circularMacro isAt => exact (((isAt.namesLine.append _).append _).append _).append _

theorem Statement.isAt_place (statement : Statement) : statement.place.IsAt statement.line := by
  unfold Statement.place
  split
  · exact .line
  · exact .expanded

theorem exists_mem_zip {α β : Type} {related : α → β → Prop} {firsts : List α} {seconds : List β}
    (pairs : List.Forall₂ related firsts seconds) {second : β} (member : second ∈ seconds) :
    ∃ first, (first, second) ∈ firsts.zip seconds := by
  induction pairs with
  | nil => cases member
  | @cons first other firsts seconds _ _ induction =>
      rcases List.mem_cons.mp member with rfl | inRest
      · exact ⟨first, List.mem_cons_self⟩
      · obtain ⟨first, paired⟩ := induction inRest
        exact ⟨first, List.mem_cons_of_mem _ paired⟩

namespace Program

variable {lookup : Lookup} {default : Value} {source : String}

/-- Why a source does not compile, and the statement of the source that is at fault. -/
inductive Diagnosis (lookup : Lookup) (default : Value) (source : String) (offender : Statement)
    (e : Error) : Prop where
  | definition :
      FirstFault (Expanded.DefinitionFault default) [] (Statement.split source) offender e →
      Diagnosis lookup default source offender e
  | call {macros : MacroTable} :
      Expanded.Defined default (Statement.split source) macros →
      FirstFault (fun _ => Expanded.FaultyCall macros) []
        ((Statement.split source).filter (!Macro.isDefinition ·.text)) offender e →
      Diagnosis lookup default source offender e
  | step {expanded : Expanded} {statement : Statement} :
      Expanded.ofSource source default = .ok expanded →
      FirstFault (StepFault lookup) [] expanded.statements statement e →
      (offender, statement) ∈
        ((Statement.split source).filter (!Macro.isDefinition ·.text)).zip expanded.statements →
      Diagnosis lookup default source offender e

/-! ## The lines of messages -/

theorem isPlaced_of_definitionFault {earlier : List Statement} {statement : Statement} {e : Error}
    (faulty : Expanded.DefinitionFault default earlier statement e) :
    e.IsPlaced statement.line := by
  cases faulty with
  | malformed => exact .malformed .line
  | redefined => exact .malformed .line

theorem isPlaced_of_callFault {macros : MacroTable} {statement : Statement} {e : Error}
    (faulty : Expanded.CallFault macros statement e) : e.IsPlaced statement.line := by
  cases faulty with
  | malformed => exact .malformed .line
  | empty => exact .malformed .line
  | unresolved _ _ _ astray =>
      cases astray with
      | undefined => exact .undefinedMacro .line
      | circular => exact .circularMacro .line

theorem isPlaced_of_stepFault {earlier : List Statement} {statement : Statement} {e : Error}
    (faulty : StepFault lookup earlier statement e) : e.IsPlaced statement.line := by
  have isAt := statement.isAt_place
  cases faulty with
  | malformed => exact .malformed isAt
  | unknownAgent => exact .unknownAgent isAt
  | undefinedVariable => exact .undefinedVariable isAt
  | duplicateOutput => exact .duplicateOutput isAt

theorem line_of_inlines {macros : MacroTable} {statement expanded : Statement}
    (inlines : Expanded.Inlines macros statement expanded) : expanded.line = statement.line := by
  cases inlines <;> rfl

/-- The statement at fault is one of the source, and the message names its line. -/
theorem Diagnosis.names_offender {offender : Statement} {e : Error}
    (diagnosis : Diagnosis lookup default source offender e) :
    offender ∈ Statement.split source ∧ NamesLine offender.line e.message := by
  cases diagnosis with
  | definition first =>
      obtain ⟨_, faulty⟩ := first.exists_fault
      exact ⟨first.mem, (isPlaced_of_definitionFault faulty).namesLine⟩
  | call _ first =>
      obtain ⟨_, faulty⟩ := first.exists_fault
      exact ⟨List.mem_of_mem_filter first.mem, (isPlaced_of_callFault faulty.fault).namesLine⟩
  | step expands first paired =>
      obtain ⟨_, faulty⟩ := first.exists_fault
      obtain ⟨_, _, inlines⟩ := Expanded.inlines_of_ofSource expands
      have sameLine := line_of_inlines (List.forall₂_zip inlines paired)
      refine ⟨List.mem_of_mem_filter (List.of_mem_zip paired).1, ?_⟩
      rw [← sameLine]
      exact (isPlaced_of_stepFault faulty).namesLine

/-! ## The whole source -/

theorem compileAll_eq_error_iff (answers : ∀ name, ∃ found, (lookup name).result = .ok found)
    {statements : List Statement} {e : Error} :
    (compileAll lookup [] statements).result = .error e ↔
      ∃ statement, FirstFault (StepFault lookup) [] statements statement e :=
  (stopsAtFault_compileAll answers).eq_error_iff [] ⟨rfl, List.nodup_nil⟩ statements e

/-- A source does not compile just when there is a diagnosis, and ends with its error. -/
theorem compile_eq_error_iff (answers : ∀ name, ∃ found, (lookup name).result = .ok found)
    {e : Error} :
    (compile lookup default source).result = .error e ↔
      ∃ offender, Diagnosis lookup default source offender e := by
  rw [result_compile, bind_eq_error_iff, Expanded.ofSource_eq_error_iff]
  constructor
  · rintro ((⟨offender, first⟩ | ⟨macros, offender, defined, first⟩) | ⟨expanded, expands, failed⟩)
    · exact ⟨offender, .definition first⟩
    · exact ⟨offender, .call defined first⟩
    · rcases bind_eq_error_iff.mp failed with failed | ⟨_, _, failed⟩
      · obtain ⟨statement, first⟩ := (compileAll_eq_error_iff answers).mp failed
        obtain ⟨_, _, inlines⟩ := Expanded.inlines_of_ofSource expands
        obtain ⟨offender, paired⟩ := exists_mem_zip inlines first.mem
        exact ⟨offender, .step expands first paired⟩
      · cases failed
  · rintro ⟨offender, diagnosis⟩
    cases diagnosis with
    | definition first => exact .inl (.inl ⟨offender, first⟩)
    | @call macros defined first => exact .inl (.inr ⟨macros, offender, defined, first⟩)
    | @step expanded statement expands first _ =>
        have failed := (compileAll_eq_error_iff answers).mpr ⟨statement, first⟩
        exact .inr ⟨expanded, expands, bind_eq_error_iff.mpr (.inl failed)⟩

/-- A compiled source has a step for each expanded statement, and captures no name twice. -/
theorem realizes_of_compile {program : Program}
    (compiled : (compile lookup default source).result = .ok program) :
    ∃ expanded, Expanded.ofSource source default = .ok expanded ∧
      List.Forall₂ (Realizes lookup) expanded.statements program.steps ∧
      program.outputs.Nodup := by
  have wellScoped := wellScoped_of_compile compiled
  rw [result_compile] at compiled
  obtain ⟨expanded, expands, compiled⟩ := bind_eq_ok_iff.mp compiled
  obtain ⟨steps, compiledAll, compiled⟩ := bind_eq_ok_iff.mp compiled
  cases compiled
  exact ⟨expanded, expands, realizes_of_compileAll compiledAll,
    wellScoped.outputs_nodup List.nodup_nil⟩

/-- The errors of compilation are specified exactly.  With a lookup that always answers, a source
ends with the error of its diagnosis, whose message names the line of the statement at
fault; without a diagnosis, it compiles to a step for each expanded statement. -/
theorem compile_diagnosis (answers : ∀ name, ∃ found, (lookup name).result = .ok found) :
    (∀ e, (compile lookup default source).result = .error e ↔
      ∃ offender, Diagnosis lookup default source offender e) ∧
    (∀ offender e, Diagnosis lookup default source offender e →
      offender ∈ Statement.split source ∧ NamesLine offender.line e.message) ∧
    ((∀ offender e, ¬Diagnosis lookup default source offender e) →
      ∃ program expanded, (compile lookup default source).result = .ok program ∧
        Expanded.ofSource source default = .ok expanded ∧
        List.Forall₂ (Realizes lookup) expanded.statements program.steps ∧
        program.outputs.Nodup) := by
  refine ⟨fun _ => compile_eq_error_iff answers, fun _ _ => Diagnosis.names_offender, ?_⟩
  intro faultless
  cases compiled : (compile lookup default source).result with
  | error e =>
      obtain ⟨offender, diagnosis⟩ := (compile_eq_error_iff answers).mp compiled
      exact absurd diagnosis (faultless offender e)
  | ok program =>
      obtain ⟨expanded, expands, realizes, distinct⟩ := realizes_of_compile compiled
      exact ⟨program, expanded, rfl, expands, realizes, distinct⟩

/-- A call of a macro whose text refers to a name that only the call itself captures. -/
theorem compile_diagnosis_macro :
    (∀ name, ∃ found, ((fun name => pure (some ⟨name, .builtin, none⟩)) name :
        Logged Error (Option Descriptor)).result = .ok found) ∧
      ∃ offender, Diagnosis (fun name => pure (some ⟨name, .builtin, none⟩)) defaultModel
        "$m := \x7b base: \"b\", prompt: \"see \x7bv\x7d\" \x7d\na:\"x\":w\n$m:\"y\":v" offender
        (.undefinedVariable "v" (.expanded 3 "m" 1)) := by
  have answers : ∀ name, ∃ found, ((fun name => pure (some ⟨name, .builtin, none⟩)) name :
      Logged Error (Option Descriptor)).result = .ok found := fun name => ⟨_, rfl⟩
  have failed : (match (compile (fun name => pure (some ⟨name, .builtin, none⟩)) defaultModel
      "$m := \x7b base: \"b\", prompt: \"see \x7bv\x7d\" \x7d\na:\"x\":w\n$m:\"y\":v").result with
      | .ok _ => none
      | .error e => some e) = some (.undefinedVariable "v" (.expanded 3 "m" 1)) := by
    decide +kernel
  refine ⟨answers, ((compile_diagnosis answers).1 _).mp ?_⟩
  split at failed
  · cases failed
  · rename_i e isError
    rw [isError, Option.some.inj failed]

end Program

end AgentFlow
