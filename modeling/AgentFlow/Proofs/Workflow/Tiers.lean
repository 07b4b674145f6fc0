import AgentFlow.Proofs.Agent.Addition
import AgentFlow.Proofs.Workflow.Recompilation
import AgentFlow.Proofs.Workflow.StepFaults

/-!
# Workflows and the tiers

A compiled workflow has asked for its agents and for nothing else.  When each name that was
found is found again, the source compiles again, to the same steps with what is told about
their agents now.  So files of temporary agents change nothing about a workflow that compiles,
and the file of a defined agent changes the steps alone that have called a temporary agent of
its name.
-/

namespace AgentFlow

open AgentFlow.Text

/-- The step, with what is told about its agent now. -/
def Step.retold (change : String → Descriptor → Descriptor) (step : Step) : Step :=
  { step with descriptor := change step.invocation.agentName step.descriptor }

theorem Step.retold_unchanged : Step.retold (fun _ descriptor => descriptor) = id := rfl

namespace Program

variable {lookup later : Lookup} {change : String → Descriptor → Descriptor}

/-- Every name that was found is found, and something else may be told about it. -/
def Refinds (change : String → Descriptor → Descriptor) (lookup later : Lookup) : Prop :=
  ∀ name descriptor, (lookup name).result = .ok (some descriptor) →
    (later name).result = .ok (some (change name descriptor))

theorem compileStatement_retold (refinds : Refinds change lookup later)
    {captures after : Captures} {statement : Statement} {step : Step}
    (compiled : (compileStatement lookup captures statement).result = .ok (step, after)) :
    (compileStatement later captures statement).result = .ok (step.retold change, after) := by
  obtain ⟨parsed, found, others⟩ := compileStatement_eq_ok_iff.mp compiled
  exact compileStatement_eq_ok_iff.mpr ⟨parsed, refinds _ _ found, others⟩

theorem compileAll_retold (refinds : Refinds change lookup later) {captures : Captures}
    {statements : List Statement} {steps : List Step}
    (compiled : (compileAll lookup captures statements).result = .ok steps) :
    (compileAll later captures statements).result = .ok (steps.map (Step.retold change)) := by
  induction statements generalizing captures steps with
  | nil =>
      cases compiled
      rfl
  | cons statement rest induction =>
      obtain ⟨step, after, others, compiledFirst, compiledRest, rfl⟩ :=
        compileAll_cons_eq_ok_iff.mp compiled
      exact compileAll_cons_eq_ok_iff.mpr ⟨_, _, _, compileStatement_retold refinds compiledFirst,
        induction compiledRest, rfl⟩

/-- A source that compiles does so again where its agents are found again. -/
theorem compile_retold (refinds : Refinds change lookup later) {default : Value}
    {source : String} {program : Program}
    (compiled : (compile lookup default source).result = .ok program) :
    (compile later default source).result =
      .ok { program with steps := program.steps.map (Step.retold change) } := by
  obtain ⟨expanded, steps, expands, compiledAll, rfl⟩ := compile_eq_ok_iff.mp compiled
  exact compile_eq_ok_iff.mpr ⟨_, _, expands, compileAll_retold refinds compiledAll, rfl⟩

end Program

namespace Store

variable {store : Store} {builtins : List Value} {disk later : Disk}

/-- Names are found again where their claims are kept. -/
theorem refinds_of_claims {change : String → Descriptor → Descriptor}
    (keeps : ∀ name descriptor, isIdentifier name = true →
      store.Claims builtins disk name descriptor →
        store.Claims builtins later name (change name descriptor)) :
    Program.Refinds change (store.resolves builtins disk) (store.resolves builtins later) := by
  intro name descriptor found
  obtain ⟨identifier, claims⟩ := resolves_eq_some_iff.mp found
  exact resolves_eq_some_iff.mpr ⟨identifier, keeps name descriptor identifier claims⟩

/-- A workflow that compiles is the same whatever files are added to the temporary tier.  A
definition that is added to the defined tier is told about in the steps that have called a
temporary agent of its name, unless a built-in agent has it, and the rest is the same. -/
theorem compile_of_additions {default : Value} {source : String} {program : Program}
    (compiled : (Program.compile (store.resolves builtins disk) default source).result =
      .ok program) :
    (∀ later, store.AddsTemporary disk later →
      (Program.compile (store.resolves builtins later) default source).result = .ok program) ∧
    ∀ added later, store.AddsDefined added disk later →
      (Program.compile (store.resolves builtins later) default source).result =
        .ok { program with
          steps := program.steps.map (Step.retold (store.overridden builtins added)) } := by
  constructor
  · intro later adds
    have again := Program.compile_retold (refinds_of_claims fun _ _ => adds.claims) compiled
    rwa [Step.retold_unchanged, List.map_id] at again
  · intro added later adds
    exact Program.compile_retold (refinds_of_claims fun _ _ => adds.claims) compiled

/-- A temporary agent, and a directory for defined ones that holds none. -/
def lentDisk : Disk :=
  temporaryDisk [(["agents"], .directory), (["temp", "a.md"], .file (.text "A"))]

theorem addsTemporary_lentDisk :
    plainStore.AddsTemporary lentDisk (lentDisk.put ["temp", "b.md"] (.file (.text "B"))) :=
  Disk.receives_put trivial rfl (by decide) _

theorem addsDefined_lentDisk :
    plainStore.AddsDefined "a" lentDisk (lentDisk.put ["agents", "a.md"] (.file (.text "B"))) := by
  have arrived : (lentDisk.put ["agents", "a.md"] (.file (.text "B"))).isFile
      (plainStore.agentsDir.definitionFile "a") = .ok true :=
    toOption_eq_some_iff.mp (by decide +kernel)
  have there : lentDisk.isDirectory plainStore.agentsDir = .ok true :=
    toOption_eq_some_iff.mp (by decide +kernel)
  obtain ⟨reaches, directory⟩ := Disk.isDirectory_eq_true_iff.mp there
  refine AddsDefined.ofReceives ?_ arrived reaches directory
  have here : ["agents", "a.md"] =
      lentDisk.destination plainStore.agentsDir ++ ["a" ++ definitionSuffix] := by
    decide +kernel
  have free : lentDisk.node? ["agents", "a.md"] = none := by decide
  refine Disk.receives_put ?_ here free _
  rfl

/-- A temporary agent is called.  Another one changes nothing, and a defined one of its name is
called from then on. -/
theorem compile_of_additions_lentDisk :
    ∃ program : Program,
      (Program.compile (plainStore.resolves [] lentDisk) .null "a:\"x\"").result = .ok program ∧
      program.steps.map (·.descriptor.source) = [.temporary] ∧
      (Program.compile (plainStore.resolves [] (lentDisk.put ["temp", "b.md"] (.file (.text "B"))))
        .null "a:\"x\"").result = .ok program ∧
      ∃ after : Program,
        (Program.compile
          (plainStore.resolves [] (lentDisk.put ["agents", "a.md"] (.file (.text "B"))))
          .null "a:\"x\"").result = .ok after ∧
        after.steps.map (·.descriptor.source) = [.defined] := by
  have called : (Program.compile (plainStore.resolves [] lentDisk)
      .null "a:\"x\"").result.toOption.map (·.steps.map (·.descriptor.source)) =
      some [.temporary] := by
    decide +kernel
  have calledLater : (Program.compile
      (plainStore.resolves [] (lentDisk.put ["agents", "a.md"] (.file (.text "B"))))
      .null "a:\"x\"").result.toOption.map (·.steps.map (·.descriptor.source)) =
      some [.defined] := by
    decide +kernel
  obtain ⟨program, compiled, sources⟩ := Option.map_eq_some_iff.mp called
  have compiled := toOption_eq_some_iff.mp compiled
  obtain ⟨same, retold⟩ := compile_of_additions compiled
  have compiledLater := retold "a" _ addsDefined_lentDisk
  rw [compiledLater] at calledLater
  have sourcesLater := Option.some.inj calledLater
  exact ⟨program, compiled, sources, same _ addsTemporary_lentDisk, _, compiledLater, sourcesLater⟩

end Store

end AgentFlow
