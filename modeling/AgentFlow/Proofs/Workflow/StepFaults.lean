import AgentFlow.Proofs.Workflow.FirstFault
import AgentFlow.Proofs.Workflow.InvocationGrammar
import AgentFlow.Proofs.Workflow.Macro
import AgentFlow.Proofs.Workflow.Scope

/-!
# Faults of expanded statements

What is wrong with an expanded statement is told from the statements before it: they
capture the names that it may refer to and that it may not capture again.  Compiling
statements reports the first fault.
-/

namespace AgentFlow

open AgentFlow.Text

theorem find?_eraseDups (names : List String) (test : String → Bool) :
    names.eraseDups.find? test = names.find? test := by
  match names with
  | [] => rfl
  | name :: rest =>
      have fewer := List.length_filter_le (fun other => !other == name) rest
      rw [List.eraseDups_cons, List.find?_cons, List.find?_cons,
        find?_eraseDups (rest.filter fun other => !other == name) test, List.find?_filter]
      cases passes : test name with
      | true => rfl
      | false =>
          have sameTest : (fun other => decide ((!other == name) = true ∧ test other = true)) = test := by
            funext other
            cases otherPasses : test other with
            | false => simp
            | true =>
                have apart : other ≠ name := by
                  rintro rfl
                  rw [passes] at otherPasses
                  cases otherPasses
                simp [apart]
          rw [sameTest]
termination_by names.length
decreasing_by
  simp only [List.length_cons]
  omega

namespace Template

/-- The names that a text refers to, as often as it does and in order. -/
def mentions (text : String) : List String :=
  (pieces text.toList).filterMap Piece.name?

theorem find?_references (text : String) (test : String → Bool) :
    (references text).find? test = (mentions text).find? test :=
  find?_eraseDups _ test

end Template

namespace Statement

/-- What a statement captures, with the line it is captured on. -/
def capture? (statement : Statement) : Option (String × Nat) :=
  (Invocation.parse statement.text).toOption.bind fun invocation =>
    invocation.output.map (·, statement.line)

/-- The statement is an invocation with this output. -/
def Captures (statement : Statement) (name : String) : Prop :=
  ∃ invocation, Invocation.parse statement.text = .ok invocation ∧ invocation.output = some name

theorem capture?_eq_some_iff {statement : Statement} {name : String} {line : Nat} :
    statement.capture? = some (name, line) ↔ statement.Captures name ∧ statement.line = line := by
  unfold capture? Captures
  simp only [Option.bind_eq_some_iff, toOption_eq_some_iff, Option.map_eq_some_iff, Prod.mk.injEq]
  constructor
  · rintro ⟨invocation, parsed, _, output, rfl, line⟩
    exact ⟨⟨invocation, parsed, output⟩, line⟩
  · rintro ⟨⟨invocation, parsed, output⟩, line⟩
    exact ⟨invocation, parsed, name, output, rfl, line⟩

end Statement

namespace Program

/-- Some statement captures the name. -/
def Captured (earlier : List Statement) (name : String) : Prop :=
  ∃ statement ∈ earlier, statement.Captures name

/-- The statement calls this agent in this way. -/
structure Calls (lookup : Lookup) (statement : Statement) (invocation : Invocation)
    (descriptor : Descriptor) : Prop where
  parsed : Invocation.parse statement.text = .ok invocation
  found : (lookup invocation.agentName).result = .ok (some descriptor)

/-- What is wrong with a statement that stands behind others. -/
inductive StepFault (lookup : Lookup) (earlier : List Statement) (statement : Statement) :
    Error → Prop where
  | malformed {fault : SyntaxFault} {text : String} :
      Invocation.parse statement.text = .error (.malformed fault .unplaced text) →
      StepFault lookup earlier statement (.malformed fault statement.place statement.text)
  | unknownAgent {invocation : Invocation} :
      Invocation.parse statement.text = .ok invocation →
      (lookup invocation.agentName).result = .ok none →
      StepFault lookup earlier statement (.unknownAgent invocation.agentName statement.place)
  | undefinedVariable {invocation : Invocation} {descriptor : Descriptor}
      {before after : List String} {name : String} :
      Calls lookup statement invocation descriptor →
      Template.mentions invocation.instruction = before ++ name :: after →
      (∀ other ∈ before, Captured earlier other) → ¬Captured earlier name →
      StepFault lookup earlier statement (.undefinedVariable name statement.place)
  | duplicateOutput {invocation : Invocation} {descriptor : Descriptor} {name : String}
      {first : Statement} :
      Calls lookup statement invocation descriptor →
      (∀ other ∈ Template.mentions invocation.instruction, Captured earlier other) →
      invocation.output = some name → first ∈ earlier → first.Captures name →
      StepFault lookup earlier statement (.duplicateOutput name statement.place first.line)

/-- A table that records what statements capture, no name twice. -/
structure Records (earlier : List Statement) (captures : Captures) : Prop where
  entries : captures = earlier.filterMap Statement.capture?
  distinct : (captures.map Prod.fst).Nodup

section

variable {earlier : List Statement} {captures : Captures}

theorem Records.lookup_eq_some_iff (records : Records earlier captures) {name : String}
    {line : Nat} :
    captures.lookup name = some line ↔
      ∃ statement ∈ earlier, statement.Captures name ∧ statement.line = line := by
  rw [lookup_eq_some_iff_mem records.distinct, records.entries, List.mem_filterMap]
  simp only [Statement.capture?_eq_some_iff]

theorem Records.lookup_isNone_iff (records : Records earlier captures) {name : String} :
    (captures.lookup name).isNone = true ↔ ¬Captured earlier name := by
  rw [Option.isNone_iff_eq_none, Option.eq_none_iff_forall_ne_some]
  simp only [ne_eq, records.lookup_eq_some_iff]
  constructor
  · rintro noLine ⟨statement, inEarlier, captured⟩
    exact noLine statement.line ⟨statement, inEarlier, captured, rfl⟩
  · rintro notCaptured line ⟨statement, inEarlier, captured, _⟩
    exact notCaptured ⟨statement, inEarlier, captured⟩

theorem Records.lookup_isNone_eq_false_iff (records : Records earlier captures) {name : String} :
    (captures.lookup name).isNone = false ↔ Captured earlier name := by
  rw [← Bool.not_eq_true, records.lookup_isNone_iff, not_not]

theorem checkUses_eq_ok_iff (records : Records earlier captures) {place : Place} {text : String} :
    checkUses place captures (Template.references text) = .ok () ↔
      ∀ name ∈ Template.mentions text, Captured earlier name := by
  have noneMissing : (Template.mentions text).find? (fun name => (captures.lookup name).isNone) =
      none ↔ ∀ name ∈ Template.mentions text, Captured earlier name := by
    simp only [List.find?_eq_none, Bool.not_eq_true, records.lookup_isNone_eq_false_iff]
  unfold checkUses
  rw [Template.find?_references, ← noneMissing]
  cases (Template.mentions text).find? fun name => (captures.lookup name).isNone <;> simp

theorem checkUses_eq_error_iff (records : Records earlier captures) {place : Place}
    {text : String} {e : Error} :
    checkUses place captures (Template.references text) = .error e ↔
      ∃ before name after, Template.mentions text = before ++ name :: after ∧
        (∀ other ∈ before, Captured earlier other) ∧ ¬Captured earlier name ∧
        e = .undefinedVariable name place := by
  have firstMissing (name : String) :
      (Template.mentions text).find? (fun name => (captures.lookup name).isNone) = some name ↔
        ∃ before after, Template.mentions text = before ++ name :: after ∧
          (∀ other ∈ before, Captured earlier other) ∧ ¬Captured earlier name := by
    simp only [List.find?_eq_some_iff_append, records.lookup_isNone_iff, Bool.not_eq_true',
      records.lookup_isNone_eq_false_iff]
    constructor
    · rintro ⟨missing, before, after, whole, present⟩
      exact ⟨before, after, whole, present, missing⟩
    · rintro ⟨before, after, whole, present, missing⟩
      exact ⟨missing, before, after, whole, present⟩
  unfold checkUses
  rw [Template.find?_references]
  constructor
  · intro failed
    split at failed
    · rename_i name found
      cases failed
      obtain ⟨before, after, whole, present, missing⟩ := (firstMissing name).mp found
      exact ⟨before, name, after, whole, present, missing, rfl⟩
    · cases failed
  · rintro ⟨before, name, after, whole, present, missing, rfl⟩
    rw [(firstMissing name).mpr ⟨before, after, whole, present, missing⟩]

theorem capture_eq_error_iff (records : Records earlier captures) {place : Place} {line : Nat}
    {output : Option String} {e : Error} :
    capture place line captures output = .error e ↔
      ∃ name first, output = some name ∧ first ∈ earlier ∧ first.Captures name ∧
        e = .duplicateOutput name place first.line := by
  constructor
  · intro failed
    unfold capture at failed
    split at failed
    · cases failed
    · rename_i name
      split at failed
      · rename_i firstLine found
        cases failed
        obtain ⟨first, inEarlier, captured, rfl⟩ := records.lookup_eq_some_iff.mp found
        exact ⟨name, first, rfl, inEarlier, captured, rfl⟩
      · cases failed
  · rintro ⟨name, first, rfl, inEarlier, captured, rfl⟩
    have found := records.lookup_eq_some_iff.mpr ⟨first, inEarlier, captured, rfl⟩
    simp only [capture, found]

theorem eq_of_capture {place : Place} {line : Nat} {after : Captures} {output : Option String}
    (captured : capture place line captures output = .ok after) :
    after = captures ++ (output.map (·, line)).toList := by
  cases output with
  | none =>
      cases captured
      simp
  | some name =>
      unfold capture at captured
      dsimp only at captured
      split at captured
      · cases captured
      · cases captured
        rfl

end

/-- What a compiled statement says of itself. -/
structure Realizes (lookup : Lookup) (statement : Statement) (step : Step) : Prop where
  parsed : Invocation.parse statement.text = .ok step.invocation
  found : (lookup step.invocation.agentName).result = .ok (some step.descriptor)
  uses : step.uses = (Template.mentions step.invocation.instruction).eraseDups
  line : step.line = statement.line
  model : step.model = statement.expansion.map Expansion.model
  macroName : step.macroName = statement.expansion.map Expansion.macroName

section

variable {lookup : Lookup} {earlier : List Statement} {captures : Captures} {statement : Statement}

theorem realizes_of_compileStatement {step : Step} {after : Captures}
    (compiled : (compileStatement lookup captures statement).result = .ok (step, after)) :
    Realizes lookup statement step := by
  obtain ⟨parsed, found, _, _, uses, line, model, macroName⟩ :=
    compileStatement_eq_ok_iff.mp compiled
  exact ⟨parsed, found, uses, line, model, macroName⟩

/-- A compiled statement captures its output behind those before it. -/
theorem records_of_compileStatement (records : Records earlier captures) {step : Step}
    {after : Captures}
    (compiled : (compileStatement lookup captures statement).result = .ok (step, after)) :
    Records (earlier ++ [statement]) after := by
  obtain ⟨parsed, _, _, captured, _⟩ := compileStatement_eq_ok_iff.mp compiled
  obtain ⟨isNew, names⟩ := names_of_capture captured
  constructor
  · have captures? : statement.capture? = step.invocation.output.map (·, statement.line) := by
      unfold Statement.capture?
      rw [toOption_eq_some_iff.mpr parsed, Option.bind_some]
    rw [eq_of_capture captured, records.entries, List.filterMap_append, ← captures?]
    cases here : statement.capture? <;> simp [here]
  · rw [names]
    cases output : step.invocation.output with
    | none => simpa using records.distinct
    | some name => exact Variables.nodup_append_new records.distinct (isNew name output)

theorem findAgent_eq_error_iff (answers : ∀ name, ∃ found, (lookup name).result = .ok found)
    {place : Place} {name : String} {e : Error} :
    (findAgent lookup place name).result = .error e ↔
      (lookup name).result = .ok none ∧ e = .unknownAgent name place := by
  obtain ⟨found, answered⟩ := answers name
  rw [result_findAgent, answered]
  cases found with
  | none => simp [bind, Except.bind, eq_comm]
  | some descriptor => simp [bind, Except.bind]

/-- A statement is refused just for a fault. -/
theorem compileStatement_eq_error_iff
    (answers : ∀ name, ∃ found, (lookup name).result = .ok found)
    (records : Records earlier captures) {e : Error} :
    (compileStatement lookup captures statement).result = .error e ↔
      StepFault lookup earlier statement e := by
  rw [result_compileStatement]
  cases parsed : Invocation.parse statement.text with
  | error cause =>
      obtain ⟨fault, rfl⟩ := Invocation.malformed_of_parse parsed
      constructor
      · intro failed
        cases failed
        exact .malformed parsed
      · intro faulty
        cases faulty with
        | malformed parsedAlike =>
            cases parsed.symm.trans parsedAlike
            rfl
        | unknownAgent parsedOther => cases parsed.symm.trans parsedOther
        | undefinedVariable calls => cases parsed.symm.trans calls.parsed
        | duplicateOutput calls => cases parsed.symm.trans calls.parsed
  | ok invocation =>
      show (findAgent lookup statement.place invocation.agentName).result >>= _ = _ ↔ _
      constructor
      · intro failed
        rcases bind_eq_error_iff.mp failed with failed | ⟨descriptor, found, failed⟩
        · obtain ⟨missing, rfl⟩ := (findAgent_eq_error_iff answers).mp failed
          exact .unknownAgent parsed missing
        · have calls : Calls lookup statement invocation descriptor :=
            ⟨parsed, findAgent_eq_ok_iff.mp found⟩
          rcases bind_eq_error_iff.mp failed with failed | ⟨_, checked, failed⟩
          · obtain ⟨before, name, after, whole, captured, missing, rfl⟩ :=
              (checkUses_eq_error_iff records).mp failed
            exact .undefinedVariable calls whole captured missing
          · rcases bind_eq_error_iff.mp failed with failed | ⟨_, _, failed⟩
            · obtain ⟨name, first, output, inEarlier, captured, rfl⟩ :=
                (capture_eq_error_iff records).mp failed
              have allCaptured := (checkUses_eq_ok_iff records).mp checked
              exact .duplicateOutput calls allCaptured output inEarlier captured
            · cases failed
      · intro faulty
        cases faulty with
        | malformed parsedOther => cases parsed.symm.trans parsedOther
        | unknownAgent parsedAlike missing =>
            cases parsed.symm.trans parsedAlike
            exact bind_eq_error_iff.mpr (.inl ((findAgent_eq_error_iff answers).mpr ⟨missing, rfl⟩))
        | @undefinedVariable _ descriptor before after name calls whole captured missing =>
            cases parsed.symm.trans calls.parsed
            refine bind_eq_error_iff.mpr (.inr ⟨descriptor, findAgent_eq_ok_iff.mpr calls.found, ?_⟩)
            refine bind_eq_error_iff.mpr (.inl ?_)
            exact (checkUses_eq_error_iff records).mpr
              ⟨before, name, after, whole, captured, missing, rfl⟩
        | @duplicateOutput _ descriptor name first calls allCaptured output inEarlier captured =>
            cases parsed.symm.trans calls.parsed
            refine bind_eq_error_iff.mpr (.inr ⟨descriptor, findAgent_eq_ok_iff.mpr calls.found, ?_⟩)
            refine bind_eq_error_iff.mpr
              (.inr ⟨(), (checkUses_eq_ok_iff records).mpr allCaptured, ?_⟩)
            refine bind_eq_error_iff.mpr (.inl ?_)
            exact (capture_eq_error_iff records).mpr
              ⟨name, first, output, inEarlier, captured, rfl⟩

/-- Compiling statements fails at the first fault. -/
theorem stopsAtFault_compileAll
    (answers : ∀ name, ∃ found, (lookup name).result = .ok found) :
    StopsAtFault (StepFault lookup) Records
      fun captures statements => (compileAll lookup captures statements).result where
  nil _ _ failed := by cases failed
  faulty := by
    intro earlier captures statement e records faulty rest
    have failed := (compileStatement_eq_error_iff answers records).mpr faulty
    rw [result_compileAll_cons]
    exact bind_eq_error_iff.mpr (.inl failed)
  passes := by
    intro earlier captures statement records faultless
    cases compiled : (compileStatement lookup captures statement).result with
    | error e =>
        exact absurd ((compileStatement_eq_error_iff answers records).mp compiled) (faultless e)
    | ok answer =>
        obtain ⟨step, after⟩ := answer
        refine ⟨after, records_of_compileStatement records compiled, ?_⟩
        intro rest e
        rw [result_compileAll_cons, compiled]
        show (compileAll lookup after rest).result >>= _ = _ ↔ _
        rw [bind_eq_error_iff]
        simp

/-- Every statement is compiled to the step that realizes it. -/
theorem realizes_of_compileAll {statements : List Statement} {steps : List Step}
    (compiled : (compileAll lookup captures statements).result = .ok steps) :
    List.Forall₂ (Realizes lookup) statements steps := by
  induction statements generalizing captures steps with
  | nil =>
      cases compiled
      exact .nil
  | cons statement rest induction =>
      obtain ⟨step, after, others, compiledFirst, compiledRest, rfl⟩ :=
        compileAll_cons_eq_ok_iff.mp compiled
      exact .cons (realizes_of_compileStatement compiledFirst) (induction compiledRest)

end

end Program

end AgentFlow
