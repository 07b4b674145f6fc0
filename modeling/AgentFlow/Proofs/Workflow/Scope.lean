import AgentFlow.Proofs.Result
import AgentFlow.Workflow.Program
import AgentFlow.Workflow.Variables

/-!
# Scopes of compiled workflows

Compilation keeps a table of the outputs captured so far and checks every statement
against it.  This module says what the checks amount to without that table:
`WellScoped` reads the steps alone, and every compiled workflow satisfies it.  The `iff`s
for a statement, for statements in order and for a whole source tell when compilation
answers and what, whatever it records on the way.
-/

namespace AgentFlow

open AgentFlow.Text

theorem lookup_isSome_iff_mem {α : Type} {entries : List (String × α)} {name : String} :
    (entries.lookup name).isSome = true ↔ name ∈ entries.map Prod.fst := by
  rw [List.lookup_isSome_iff, List.mem_map]
  constructor
  · rintro ⟨entry, member, same⟩
    exact ⟨entry, member, (beq_iff_eq.mp same).symm⟩
  · rintro ⟨entry, member, same⟩
    exact ⟨entry, member, beq_iff_eq.mpr same.symm⟩

/-- The outputs that steps capture, in their order. -/
def outputsOf (steps : List Step) : List String :=
  steps.filterMap (·.invocation.output)

theorem outputsOf_append (first second : List Step) :
    outputsOf (first ++ second) = outputsOf first ++ outputsOf second :=
  List.filterMap_append

theorem outputsOf_cons (step : Step) (rest : List Step) :
    outputsOf (step :: rest) = step.invocation.output.toList ++ outputsOf rest := by
  cases output : step.invocation.output <;> simp [outputsOf, output]

theorem mem_outputsOf_iff {steps : List Step} {name : String} :
    name ∈ outputsOf steps ↔ ∃ step ∈ steps, step.invocation.output = some name :=
  List.mem_filterMap

/-- Every step refers only to names captured before it, and captures no name again. -/
inductive WellScoped : List String → List Step → Prop where
  | nil {captured : List String} : WellScoped captured []
  | cons {captured : List String} {step : Step} {rest : List Step} :
      (∀ name ∈ Template.references step.invocation.instruction, name ∈ captured) →
      (∀ name, step.invocation.output = some name → name ∉ captured) →
      WellScoped (captured ++ step.invocation.output.toList) rest →
      WellScoped captured (step :: rest)

namespace WellScoped

/-- No name is captured twice, neither by two steps nor by a step and from the start. -/
theorem outputs_nodup {captured : List String} {steps : List Step}
    (wellScoped : WellScoped captured steps) (distinct : captured.Nodup) :
    (captured ++ outputsOf steps).Nodup := by
  induction wellScoped with
  | nil => simpa [outputsOf] using distinct
  | @cons captured step rest _ isNew _ induction =>
      rw [outputsOf_cons, ← List.append_assoc]
      apply induction
      cases output : step.invocation.output with
      | none => simpa using distinct
      | some name => exact Variables.nodup_append_new distinct (isNew name output)

end WellScoped

namespace Program

theorem result_findAgent (lookup : Lookup) (place : Place) (name : String) :
    (findAgent lookup place name).result =
      (lookup name).result >>= fun found =>
        match found with
        | some descriptor => .ok descriptor
        | none => .error (.unknownAgent name place) := by
  unfold findAgent
  rw [Logged.result_bind]
  cases (lookup name).result with
  | error e => rfl
  | ok found => cases found <;> rfl

theorem findAgent_eq_ok_iff {lookup : Lookup} {place : Place} {name : String}
    {descriptor : Descriptor} :
    (findAgent lookup place name).result = .ok descriptor ↔
      (lookup name).result = .ok (some descriptor) := by
  rw [result_findAgent]
  cases (lookup name).result with
  | error e => simp [bind, Except.bind]
  | ok found => cases found <;> simp [bind, Except.bind]

/-- Compiling a statement, the records left out. -/
theorem result_compileStatement {lookup : Lookup} {captures : Captures} {statement : Statement} :
    (compileStatement lookup captures statement).result =
      ((Invocation.parse statement.text).mapError fun e =>
        match e with
        | .malformed fault _ _ => .malformed fault statement.place statement.text
        | e => e) >>= fun invocation =>
      (findAgent lookup statement.place invocation.agentName).result >>= fun descriptor =>
      checkUses statement.place captures (Template.references invocation.instruction) >>= fun _ =>
      capture statement.place statement.line captures invocation.output >>= fun after =>
      .ok (⟨invocation, descriptor, Template.references invocation.instruction, statement.line,
        statement.expansion.map Expansion.model, statement.expansion.map Expansion.macroName⟩,
        after) := by
  unfold compileStatement
  -- The errors are matched on alike, which may be seen only by unfolding.
  simp only [Logged.result_bind, Logged.result_ofExcept, Logged.result_pure] <;> rfl

/-- The parts of a statement that is compiled, and what its step tells of it. -/
theorem compileStatement_eq_ok_iff {lookup : Lookup} {captures after : Captures}
    {statement : Statement} {step : Step} :
    (compileStatement lookup captures statement).result = .ok (step, after) ↔
      Invocation.parse statement.text = .ok step.invocation ∧
        (lookup step.invocation.agentName).result = .ok (some step.descriptor) ∧
        checkUses statement.place captures
          (Template.references step.invocation.instruction) = .ok () ∧
        capture statement.place statement.line captures step.invocation.output = .ok after ∧
        step.uses = Template.references step.invocation.instruction ∧
        step.line = statement.line ∧ step.model = statement.expansion.map Expansion.model ∧
        step.macroName = statement.expansion.map Expansion.macroName := by
  rw [result_compileStatement]
  constructor
  · intro compiled
    obtain ⟨invocation, parsed, compiled⟩ := bind_eq_ok_iff.mp compiled
    obtain ⟨descriptor, found, compiled⟩ := bind_eq_ok_iff.mp compiled
    obtain ⟨_, checked, compiled⟩ := bind_eq_ok_iff.mp compiled
    obtain ⟨captured, capturedNow, compiled⟩ := bind_eq_ok_iff.mp compiled
    cases compiled
    exact ⟨mapError_eq_ok_iff.mp parsed, findAgent_eq_ok_iff.mp found, checked, capturedNow, rfl,
      rfl, rfl, rfl⟩
  · obtain ⟨invocation, descriptor, uses, line, model, macroName⟩ := step
    dsimp only
    rintro ⟨parsed, found, checked, captured, rfl, rfl, rfl, rfl⟩
    refine bind_eq_ok_iff.mpr ⟨_, mapError_eq_ok_iff.mpr parsed, ?_⟩
    refine bind_eq_ok_iff.mpr ⟨_, findAgent_eq_ok_iff.mpr found, ?_⟩
    exact bind_eq_ok_iff.mpr ⟨_, checked, bind_eq_ok_iff.mpr ⟨_, captured, rfl⟩⟩

theorem result_compileAll_cons {lookup : Lookup} {captures : Captures} {statement : Statement}
    {rest : List Statement} : (compileAll lookup captures (statement :: rest)).result =
      (compileStatement lookup captures statement).result >>= fun compiled =>
        (compileAll lookup compiled.2 rest).result >>= fun others =>
          .ok (compiled.1 :: others) := by
  rw [compileAll, Logged.result_bind]
  refine bind_congr fun compiled => ?_
  rw [Logged.result_bind]
  rfl

theorem compileAll_cons_eq_ok_iff {lookup : Lookup} {captures : Captures} {statement : Statement}
    {rest : List Statement} {steps : List Step} :
    (compileAll lookup captures (statement :: rest)).result = .ok steps ↔ ∃ step after others,
      (compileStatement lookup captures statement).result = .ok (step, after) ∧
        (compileAll lookup after rest).result = .ok others ∧ steps = step :: others := by
  rw [result_compileAll_cons]
  constructor
  · intro compiled
    obtain ⟨⟨step, after⟩, compiledFirst, compiled⟩ := bind_eq_ok_iff.mp compiled
    obtain ⟨others, compiledRest, compiled⟩ := bind_eq_ok_iff.mp compiled
    cases compiled
    exact ⟨step, after, others, compiledFirst, compiledRest, rfl⟩
  · rintro ⟨step, after, others, compiledFirst, compiledRest, rfl⟩
    exact bind_eq_ok_iff.mpr ⟨_, compiledFirst, bind_eq_ok_iff.mpr ⟨_, compiledRest, rfl⟩⟩

theorem result_compile (lookup : Lookup) (default : Value) (source : String) :
    (compile lookup default source).result =
      Expanded.ofSource source default >>= fun expanded =>
        (compileAll lookup [] expanded.statements).result >>= fun steps =>
          .ok ⟨steps, expanded.macros⟩ := by
  unfold compile
  simp only [Logged.result_bind, Logged.result_ofExcept, Logged.result_pure, Logged.result_tell]
  rfl

theorem compile_eq_ok_iff {lookup : Lookup} {default : Value} {source : String}
    {program : Program} :
    (compile lookup default source).result = .ok program ↔ ∃ expanded steps,
      Expanded.ofSource source default = .ok expanded ∧
        (compileAll lookup [] expanded.statements).result = .ok steps ∧
          program = ⟨steps, expanded.macros⟩ := by
  rw [result_compile]
  constructor
  · intro compiled
    obtain ⟨expanded, expands, compiled⟩ := bind_eq_ok_iff.mp compiled
    obtain ⟨steps, compiledAll, compiled⟩ := bind_eq_ok_iff.mp compiled
    cases compiled
    exact ⟨expanded, steps, expands, compiledAll, rfl⟩
  · rintro ⟨expanded, steps, expands, compiledAll, rfl⟩
    exact bind_eq_ok_iff.mpr ⟨_, expands, bind_eq_ok_iff.mpr ⟨_, compiledAll, rfl⟩⟩

theorem mem_of_checkUses {place : Place} {captures : Captures} {uses : List String}
    (checked : checkUses place captures uses = .ok ()) :
    ∀ name ∈ uses, name ∈ captures.map Prod.fst := by
  unfold checkUses at checked
  split at checked
  · cases checked
  · rename_i noneMissing
    intro name member
    have present := List.find?_eq_none.mp noneMissing name member
    rw [← lookup_isSome_iff_mem]
    simpa using present

theorem names_of_capture {place : Place} {line : Nat} {captures after : Captures}
    {output : Option String} (captured : capture place line captures output = .ok after) :
    (∀ name, output = some name → name ∉ captures.map Prod.fst) ∧
      after.map Prod.fst = captures.map Prod.fst ++ output.toList := by
  cases output with
  | none =>
      cases captured
      simp
  | some name =>
      unfold capture at captured
      dsimp only at captured
      split at captured
      · cases captured
      · rename_i absent
        cases captured
        constructor
        · intro other same
          cases same
          rw [← lookup_isSome_iff_mem, absent]
          simp
        · simp

theorem wellScoped_of_compileAll {lookup : Lookup} {statements : List Statement}
    {captures : Captures} {steps : List Step}
    (compiled : (compileAll lookup captures statements).result = .ok steps) :
    WellScoped (captures.map Prod.fst) steps := by
  induction statements generalizing captures steps with
  | nil =>
      cases compiled
      exact .nil
  | cons statement rest induction =>
      obtain ⟨step, after, others, compiledFirst, compiledRest, rfl⟩ :=
        compileAll_cons_eq_ok_iff.mp compiled
      obtain ⟨_, _, checked, captured, _⟩ := compileStatement_eq_ok_iff.mp compiledFirst
      obtain ⟨isNew, names⟩ := names_of_capture captured
      refine .cons (mem_of_checkUses checked) isNew ?_
      rw [← names]
      exact induction compiledRest

/-- A compiled workflow is well scoped from its start. -/
theorem wellScoped_of_compile {lookup : Lookup} {default : Value} {source : String}
    {program : Program} (compiled : (compile lookup default source).result = .ok program) :
    WellScoped [] program.steps := by
  obtain ⟨expanded, steps, _, compiledAll, rfl⟩ := compile_eq_ok_iff.mp compiled
  exact wellScoped_of_compileAll compiledAll

end Program

end AgentFlow
