import AgentFlow.Proofs.Agent.Counting
import AgentFlow.Proofs.Workflow.Execution

/-!
# Runs that stop

A step of a compiled workflow can stop a run in two ways: its dispatch fails, or its output
is bound already.  In both cases only the dispatcher knows of the step.  So a run that stops
leaves what the steps before have done: their captures, and their uses in the registry.
-/

namespace AgentFlow.Run

open AgentFlow.Text

variable {σ : Type} {dispatcher : Dispatcher σ} {store : Store} {table : Registry} {step : Step}
  {state : RunState σ}

/-- The table that a machine keeps in a registry, which can be written again. -/
structure Kept (store : Store) (table : Registry) (machine : Machine) : Prop where
  loaded : store.load machine.disk = .ok table
  writable : machine.disk.Writable store.registryPath
  noMishaps : machine.mishaps = []

theorem Kept.of_disk_eq {before after : Machine} (kept : Kept store table before)
    (sameDisk : after.disk = before.disk) (sameMishaps : after.mishaps = before.mishaps) :
    Kept store table after where
  loaded := sameDisk ▸ kept.loaded
  writable := sameDisk ▸ kept.writable
  noMishaps := sameMishaps.trans kept.noMishaps

/-- Why a step stops a run, and what the dispatcher has become. -/
inductive StopsAt (dispatcher : Dispatcher σ) (step : Step) (instruction : String)
    (bindings : Variables) (before : σ) : Error → σ → Prop where
  | failed {error : Error} {after : σ} :
      dispatcher.dispatch before step instruction = (.error error, after) →
      StopsAt dispatcher step instruction bindings before error after
  | boundTwice {output name : String} {after : σ} :
      dispatcher.dispatch before step instruction = (.ok output, after) →
      step.invocation.output = some name → name ∈ bindings.names →
      StopsAt dispatcher step instruction bindings before (.boundTwice name) after

/-- How a run ends after some outcomes: with all of them if no step is left, or because of
the next step, which is handed its instruction.  No step after it is run. -/
inductive Verdict (dispatcher : Dispatcher σ) (outcomes : List Outcome) (bindings : Variables)
    (before : σ) : List Step → Except (Halt Error) (List Outcome) → σ → Prop where
  | finished : Verdict dispatcher outcomes bindings before [] (.ok outcomes) before
  | stopped {step : Step} {later : List Step} {instruction : String} {error : Error} {after : σ} :
      Template.interpolate bindings.get? step.invocation.instruction = .ok instruction →
      StopsAt dispatcher step instruction bindings before error after →
      Verdict dispatcher outcomes bindings before (step :: later) (.error (.failed error)) after

/-- What a run of steps has done when it ends: the steps of the outcomes are dispatched, each
exactly once and in order, and the captures and uses are those of the outcomes. -/
structure Ended (dispatcher : Dispatcher σ) (store : Store) (table : Registry)
    (steps : List Step) (state : RunState σ) (outcomes : List Outcome) (rest : List Step)
    (result : Except (Halt Error) (List Outcome)) (final : RunState σ) : Prop where
  steps_eq : steps = outcomes.map Outcome.step ++ rest
  verdict : ∃ before, Dispatched dispatcher state.dispatcher outcomes before ∧
    Verdict dispatcher outcomes final.bindings before rest result final.dispatcher
  entries : final.bindings.entries = state.bindings.entries ++ capturesOf outcomes
  kept : Kept store (table.withUses (outcomes.map Outcome.step)) final.machine
  untouched : (∀ name ∈ table.map Prod.fst, usesOf name (outcomes.map Outcome.step) = 0) →
    final.machine.disk = state.machine.disk

/-! ## One step -/

theorem work_of_ok {α : Type} {part : Work Error α} {a : α} {machine : Machine}
    (ended : part state.machine = (.ok a, machine)) :
    work part state = (.ok a, { state with machine := machine }) := by
  unfold work
  rw [get_bind]
  simp only [ended]
  rfl

theorem countUse_of_kept (kept : Kept store table state.machine)
    (countable : (table.withUses [step]).Countable) :
    ∃ machine, countUse (some store) step state = (.ok (), { state with machine := machine }) ∧
      Kept store (table.withUses [step]) machine ∧
      ((∀ name ∈ table.map Prod.fst, usesOf name [step] = 0) →
        machine.disk = state.machine.disk) := by
  rw [Registry.withUses_singleton] at countable ⊢
  unfold countUse Registry.afterStep at *
  by_cases defined : step.descriptor.source = .defined
  · rw [if_pos defined] at countable ⊢
    obtain ⟨_, machine, counted, noMishaps, loaded, writable, untouched⟩ :=
      Store.completes_incrementUsage kept.loaded kept.writable countable state.machine rfl
        kept.noMishaps
    refine ⟨machine, ?_, ⟨loaded, writable, noMishaps⟩, fun unused => untouched fun present => ?_⟩
    · simp only [defined]
      exact work_of_ok counted
    · have none := unused _ present
      simp [usesOf, defined] at none
  · rw [if_neg defined]
    refine ⟨state.machine, ?_, kept, fun _ => rfl⟩
    cases source : step.descriptor.source with
    | defined => exact absurd source defined
    | builtin => rfl
    | temporary => rfl

theorem runStep_of_stopsAt {registry : Option Store} {instruction : String} {error : Error}
    {after : σ}
    (completed : Template.interpolate state.bindings.get? step.invocation.instruction =
      .ok instruction)
    (stops : StopsAt dispatcher step instruction state.bindings state.dispatcher error after) :
    runStep dispatcher registry step state =
      (.error (.failed error), { state with dispatcher := after }) := by
  unfold runStep
  refine (get_bind _ state).trans ?_
  refine (bind_of_ok (ofExcept_interpolate completed)).trans ?_
  cases stops with
  | failed answer => exact bind_of_error (dispatch_of_error answer)
  | boundTwice answer captured taken =>
      refine (bind_of_ok (dispatch_of_answer answer)).trans ?_
      exact bind_of_error (captureOutput_of_taken captured taken)

/-- A step whose references are bound is dispatched.  Then it stops the run, or its output is
captured and its use is counted. -/
theorem runStep_of_kept (dispatcher : Dispatcher σ) (kept : Kept store table state.machine)
    (countable : (table.withUses [step]).Countable)
    (bound : ∀ name ∈ Template.references step.invocation.instruction,
      name ∈ state.bindings.names) :
    ∃ instruction,
      Template.interpolate state.bindings.get? step.invocation.instruction = .ok instruction ∧
      ((∃ error after,
          StopsAt dispatcher step instruction state.bindings state.dispatcher error after) ∨
        ∃ output after,
          dispatcher.dispatch state.dispatcher step instruction = (.ok output, after.dispatcher) ∧
          runStep dispatcher (some store) step state = (.ok ⟨step, instruction, output⟩, after) ∧
          after.bindings.entries =
            state.bindings.entries ++ capturesOf [⟨step, instruction, output⟩] ∧
          Kept store (table.withUses [step]) after.machine ∧
          ((∀ name ∈ table.map Prod.fst, usesOf name [step] = 0) →
            after.machine.disk = state.machine.disk)) := by
  have allBound : ∀ name ∈ Template.references step.invocation.instruction,
      (state.bindings.get? name).isSome = true :=
    fun name member => lookup_isSome_iff_mem.mpr (bound name member)
  have completed := Template.interpolate_of_bound allBound
  refine ⟨_, completed, ?_⟩
  generalize String.ofList _ = instruction at completed ⊢
  rcases answer : dispatcher.dispatch state.dispatcher step instruction with ⟨result, next⟩
  cases result with
  | error error => exact .inl ⟨error, next, .failed answer⟩
  | ok output =>
      by_cases taken : ∃ name, step.invocation.output = some name ∧ name ∈ state.bindings.names
      · obtain ⟨name, captured, inBindings⟩ := taken
        exact .inl ⟨_, next, .boundTwice answer captured inBindings⟩
      · refine .inr ?_
        obtain ⟨bindings, entries, captures⟩ := @captureOutput_of_free σ step instruction output
          { state with dispatcher := next }
          fun name captured inBindings => taken ⟨name, captured, inBindings⟩
        obtain ⟨counted, counts, keptCounted, untouched⟩ := @countUse_of_kept σ store table step
          { state with dispatcher := next, bindings := bindings } kept countable
        obtain ⟨machine, sameDisk, sameMishaps, ran⟩ :=
          runStep_of_answer completed answer captures counts
        refine ⟨output, ⟨bindings, next, machine⟩, rfl, ran, entries, ?_, ?_⟩
        · exact keptCounted.of_disk_eq sameDisk sameMishaps
        · exact fun unused => sameDisk.trans (untouched unused)

/-! ## Runs -/

theorem Verdict.cons {outcomes : List Outcome} {bindings : Variables} {before after : σ}
    {rest : List Step} {result : Except (Halt Error) (List Outcome)} (outcome : Outcome)
    (verdict : Verdict dispatcher outcomes bindings before rest result after) :
    Verdict dispatcher (outcome :: outcomes) bindings before rest
      (result.map (outcome :: ·)) after := by
  cases verdict with
  | finished => exact .finished
  | stopped completed stopsAt => exact .stopped completed stopsAt

theorem Ended.cons {steps rest : List Step} {outcome : Outcome} {outcomes : List Outcome}
    {result : Except (Halt Error) (List Outcome)} {after final : RunState σ}
    (ended : Ended dispatcher store (table.withUses [outcome.step]) steps after outcomes rest
      result final)
    (answer : dispatcher.dispatch state.dispatcher outcome.step outcome.instruction =
      (.ok outcome.output, after.dispatcher))
    (entries : after.bindings.entries = state.bindings.entries ++ capturesOf [outcome])
    (untouched : (∀ name ∈ table.map Prod.fst, usesOf name [outcome.step] = 0) →
      after.machine.disk = state.machine.disk) :
    Ended dispatcher store table (outcome.step :: steps) state (outcome :: outcomes) rest
      (result.map (outcome :: ·)) final where
  steps_eq := congrArg (outcome.step :: ·) ended.steps_eq
  verdict := by
    obtain ⟨before, dispatched, verdict⟩ := ended.verdict
    exact ⟨before, .cons answer dispatched, verdict.cons outcome⟩
  entries := by
    rw [ended.entries, entries, List.append_assoc, ← capturesOf_append, List.singleton_append]
  kept := by
    have kept := ended.kept
    rwa [← Registry.withUses_append] at kept
  untouched := by
    intro unused
    have split : ∀ name ∈ table.map Prod.fst, usesOf name [outcome.step] = 0 ∧
        usesOf name (outcomes.map Outcome.step) = 0 := by
      intro name member
      have none := unused name member
      rw [List.map_cons, ← List.singleton_append, usesOf_append] at none
      omega
    refine (ended.untouched ?_).trans (untouched fun name member => (split name member).1)
    rw [Registry.keys_withUses]
    exact fun name member => (split name member).2

theorem Ended.of_disk_eq {steps rest : List Step} {outcomes : List Outcome}
    {result : Except (Halt Error) (List Outcome)} {final : RunState σ} {machine : Machine}
    (ended : Ended dispatcher store table steps state outcomes rest result final)
    (sameDisk : machine.disk = final.machine.disk)
    (sameMishaps : machine.mishaps = final.machine.mishaps) :
    Ended dispatcher store table steps state outcomes rest result
      { final with machine := machine } where
  steps_eq := ended.steps_eq
  verdict := ended.verdict
  entries := ended.entries
  kept := ended.kept.of_disk_eq sameDisk sameMishaps
  untouched := fun unused => sameDisk.trans (ended.untouched unused)

/-- A well-scoped rest of a workflow ends with a verdict, and what its outcomes have done stays
done.  The induction carries that the captured names are bound and that the counts so far, being
between those of the start and those of all steps, can be written. -/
theorem runSteps_ended (dispatcher : Dispatcher σ) {captured : List String} {steps : List Step}
    (wellScoped : WellScoped captured steps) {table : Registry} {state : RunState σ}
    (bound : ∀ name ∈ captured, name ∈ state.bindings.names)
    (kept : Kept store table state.machine) (countable : table.Countable)
    (countableAtEnd : (table.withUses steps).Countable) :
    ∃ outcomes rest result final,
      runSteps dispatcher (some store) steps state = (result, final) ∧
        Ended dispatcher store table steps state outcomes rest result final := by
  induction wellScoped generalizing table state with
  | nil =>
      refine ⟨[], [], _, state, rfl, rfl, ⟨_, .nil, .finished⟩, ?_, ?_, fun _ => rfl⟩
      · simp [capturesOf]
      · rw [List.map_nil, Registry.withUses_nil]
        exact kept
  | @cons captured step later usesCaptured _ _ induction =>
      have first : (table.withUses [step]).Countable := countable.between countableAtEnd
      obtain ⟨instruction, completed, stops | ends⟩ :=
        runStep_of_kept dispatcher kept first fun name member => bound name (usesCaptured name member)
      · obtain ⟨error, after, stopsAt⟩ := stops
        refine ⟨[], step :: later, _, { state with dispatcher := after }, ?_, rfl,
          ⟨_, .nil, .stopped completed stopsAt⟩, ?_, ?_, fun _ => rfl⟩
        · unfold runSteps
          exact bind_of_error (runStep_of_stopsAt completed stopsAt)
        · simp [capturesOf]
        · rw [List.map_nil, Registry.withUses_nil]
          exact kept
      · obtain ⟨output, after, answer, ran, entries, keptAfter, untouched⟩ := ends
        have boundAfter : ∀ name ∈ captured ++ step.invocation.output.toList,
            name ∈ after.bindings.names := by
          intro name member
          unfold Variables.names
          rw [entries, List.map_append, names_capturesOf]
          rcases List.mem_append.mp member with before | own
          · exact List.mem_append_left _ (bound name before)
          · exact List.mem_append_right _ (mem_outputsOf_iff.mpr
              ⟨step, List.mem_cons_self, Option.mem_toList.mp own⟩)
        -- The table after this step takes the place of the one before, so the uses of the later
        -- steps are added to it.
        obtain ⟨outcomes, rest, result, final, ranLater, ended⟩ := induction boundAfter keptAfter
          first (by rwa [← Registry.withUses_append])
        refine ⟨⟨step, instruction, output⟩ :: outcomes, rest, _, final, ?_,
          ended.cons answer entries untouched⟩
        unfold runSteps
        refine (bind_of_ok ran).trans ?_
        cases result with
        | ok others => exact (bind_of_ok ranLater).trans rfl
        | error halt => exact bind_of_error ranLater

/-- A run that stops leaves exactly what the steps before have done.  Each step up to the one
that stops the run is dispatched once and in order, no step after it is; the variables grow by
the captures of the steps before it, and the counts of the registry by their uses. -/
theorem run_ended_of_compiled {lookup : Lookup} {default : Value} {source : String} {program : Program}
    (compiled : (Program.compile lookup default source).result = .ok program)
    (dispatcher : Dispatcher σ) (kept : Kept store table state.machine)
    (countable : (table.withUses program.steps).Countable) :
    ∃ outcomes rest result final,
      run dispatcher (some store) program state = (result, final) ∧
        Ended dispatcher store table program.steps state outcomes rest result final := by
  obtain ⟨outcomes, rest, result, final, ran, ended⟩ := runSteps_ended dispatcher
    (Program.wellScoped_of_compile compiled) (fun _ impossible => absurd impossible
      List.not_mem_nil) kept (Store.countable_of_load kept.loaded) countable
  cases result with
  | error halt =>
      refine ⟨outcomes, rest, _, final, ?_, ended⟩
      unfold run
      exact bind_of_error ran
  | ok others =>
      refine ⟨outcomes, rest, .ok others, { final with machine := { final.machine with
        records := final.machine.records ++ [⟨.info, logger, "Workflow run finished: " ++
          Number.integerText others.length ++ " node(s)"⟩] } }, ?_, ?_⟩
      · unfold run
        exact (bind_of_ok ran).trans rfl
      · exact ended.of_disk_eq rfl rfl

/-- A dispatcher that knows its calls and fails at the third. -/
def thirdFails : Dispatcher (List String) where
  dispatch calls step instruction :=
    (if calls.length = 2 then .error (.unknownAgent step.invocation.agentName .unplaced)
      else .ok "\x7bu\x7d", calls ++ [instruction])
  elapsed := fun _ => ""

def stoppingSource : String := "b:\"x\":v\nc:\"y\"\nb:\"see \x7bv\x7d\":w\na:\"z\""

def stoppingStart : RunState (List String) :=
  ⟨⟨[("u", "1")], by decide⟩, [], Machine.ofDisk Store.lenientDisk⟩

/-- A use of a defined agent is counted before the third call, and one of a built-in agent is
not. -/
theorem run_ended_of_failure :
    ∃ program, (Program.compile
        (fun name => pure (some ⟨name, if name = "c" then .builtin else .defined, none⟩))
        defaultModel stoppingSource).result = .ok program ∧
      ∃ outcomes rest result final,
        run thirdFails (some Store.plainStore) program stoppingStart = (result, final) ∧
          Ended thirdFails Store.plainStore
            [("a", ⟨"a", "a.md", "", "", -3⟩), ("b", ⟨"b", "[0]", "", "", 10⟩)] program.steps
            stoppingStart outcomes rest result final ∧
          final.dispatcher = ["x", "y", "see \x7bu\x7d"] ∧
          Store.plainStore.load final.machine.disk =
            .ok [("a", ⟨"a", "a.md", "", "", -3⟩), ("b", ⟨"b", "[0]", "", "", 11⟩)] := by
  let table : Registry := [("a", ⟨"a", "a.md", "", "", -3⟩), ("b", ⟨"b", "[0]", "", "", 10⟩)]
  let used : Registry := [("a", ⟨"a", "a.md", "", "", -2⟩), ("b", ⟨"b", "[0]", "", "", 12⟩)]
  let left : Registry := [("a", ⟨"a", "a.md", "", "", -3⟩), ("b", ⟨"b", "[0]", "", "", 11⟩)]
  have runs : (Program.compile
      (fun name => pure (some ⟨name, if name = "c" then .builtin else .defined, none⟩))
      defaultModel stoppingSource).result.toOption.map (fun program =>
        let final := (run thirdFails (some Store.plainStore) program stoppingStart).2
        (table.withUses program.steps, final.dispatcher,
          (final.machine.disk.fileAt Store.plainStore.registryPath).toOption)) =
      some (used, ["x", "y", "see \x7bu\x7d"], some (["agents", "r"], .text left.fileText)) := by
    decide +kernel
  have loads : (Store.plainStore.load Store.lenientDisk).toOption = some table := by
    decide +kernel
  have short : ∀ line ∈ used, Number.IsWritable line.2.usageCount := by decide +kernel
  have countable : used.Countable := fun name entry member =>
    Entry.isCountable_iff.mpr (short (name, entry) member)
  obtain ⟨program, found, values⟩ := Option.map_eq_some_iff.mp runs
  have compiled := toOption_eq_some_iff.mp found
  obtain ⟨counts, calls, counted⟩ : table.withUses program.steps = used ∧ _ ∧ _ := by
    simpa only [Prod.mk.injEq] using values
  have kept : Kept Store.plainStore table stoppingStart.machine :=
    ⟨toOption_eq_some_iff.mp loads, Store.writable_lenientDisk, rfl⟩
  obtain ⟨outcomes, rest, result, final, ran, ended⟩ :=
    run_ended_of_compiled compiled thirdFails kept (counts ▸ countable)
  rw [ran] at calls counted
  exact ⟨program, compiled, outcomes, rest, result, final, ran, ended, calls,
    Store.load_of_fileAt (Registry.wellFormed_of_lines (by decide) (by decide)) (by decide +kernel)
      counted⟩

end AgentFlow.Run
