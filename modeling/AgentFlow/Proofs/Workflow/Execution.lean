import AgentFlow.Proofs.Workflow.Scope
import AgentFlow.Workflow.Run
import Mathlib.Data.List.Nodup

/-!
# Running well-scoped workflows

A run binds what the dispatcher answers; compilation captured the same names before
any answer was known.  The invariant of the run is that the variables are those it
was started with, followed by the captures of the outcomes so far.  It makes every
reference of the next step bound and every name that the step captures free.
-/

namespace AgentFlow

open AgentFlow.Text

/-- What an outcome adds to the variables. -/
def Outcome.capture? (outcome : Outcome) : Option (String × String) :=
  outcome.step.invocation.output.map (·, outcome.output)

/-- What outcomes add to the variables, in their order. -/
def capturesOf (outcomes : List Outcome) : List (String × String) :=
  outcomes.filterMap Outcome.capture?

/-- The dispatcher is handed the instructions of the outcomes, one after another, each
exactly once and nothing else, and answers with their outputs. -/
inductive Dispatched {σ : Type} (dispatcher : Dispatcher σ) :
    σ → List Outcome → σ → Prop where
  | nil {state : σ} : Dispatched dispatcher state [] state
  | cons {state next final : σ} {outcome : Outcome} {rest : List Outcome} :
      dispatcher.dispatch state outcome.step outcome.instruction = (.ok outcome.output, next) →
      Dispatched dispatcher next rest final →
      Dispatched dispatcher state (outcome :: rest) final

/-- The pieces of an instruction completed after some outcomes.  A placeholder becomes the
output of the only step before that captures its name, and that output is not read again. -/
inductive Completed (earlier : List Outcome) : List Template.Piece → List Char → Prop where
  | nil : Completed earlier [] []
  | literal {c : Char} {pieces : List Template.Piece} {text : List Char} :
      Completed earlier pieces text →
      Completed earlier (.literal c :: pieces) (c :: text)
  | placeholder {name : List Char} {pieces : List Template.Piece} {text : List Char}
      {before after : List Outcome} {source : Outcome} :
      earlier = before ++ source :: after →
      source.step.invocation.output = some (String.ofList name) →
      (∀ other ∈ before ++ after,
        other.step.invocation.output ≠ some (String.ofList name)) →
      Completed earlier pieces text →
      Completed earlier (.placeholder name :: pieces) (source.output.toList ++ text)

theorem names_capturesOf (outcomes : List Outcome) :
    (capturesOf outcomes).map Prod.fst = outputsOf (outcomes.map Outcome.step) := by
  induction outcomes with
  | nil => rfl
  | cons outcome rest induction =>
      unfold capturesOf outputsOf at induction ⊢
      cases output : outcome.step.invocation.output with
      | none => simpa [Outcome.capture?, output] using induction
      | some name => simpa [Outcome.capture?, output] using induction

theorem capturesOf_append (first second : List Outcome) :
    capturesOf (first ++ second) = capturesOf first ++ capturesOf second := by
  simp [capturesOf]

/-- When no name is captured twice, one outcome alone has captured a captured name. -/
theorem exists_only_source {outcomes : List Outcome} {name : String}
    (distinct : ((capturesOf outcomes).map Prod.fst).Nodup)
    (captured : name ∈ (capturesOf outcomes).map Prod.fst) :
    ∃ before source after, outcomes = before ++ source :: after ∧
      source.step.invocation.output = some name ∧
      ∀ other ∈ before ++ after, other.step.invocation.output ≠ some name := by
  obtain ⟨entry, member, rfl⟩ := List.mem_map.mp captured
  obtain ⟨source, sourceMember, capture⟩ := List.mem_filterMap.mp member
  obtain ⟨output, sourceOutput, rfl⟩ := Option.map_eq_some_iff.mp capture
  obtain ⟨before, after, rfl⟩ := List.append_of_mem sourceMember
  refine ⟨before, source, after, rfl, sourceOutput, ?_⟩
  rw [names_capturesOf, List.map_append, List.map_cons, outputsOf_append, outputsOf_cons,
    sourceOutput, Option.toList_some, List.singleton_append] at distinct
  have notElsewhere := (List.nodup_cons.mp (List.nodup_middle.mp distinct)).1
  rw [← outputsOf_append, ← List.map_append] at notElsewhere
  intro other otherMember sameOutput
  exact notElsewhere (mem_outputsOf_iff.mpr
    ⟨other.step, List.mem_map.mpr ⟨other, otherMember, rfl⟩, sameOutput⟩)

/-- The value of a name is the output of the outcome that has captured it. -/
theorem lookup_capturesOf {initial : List (String × String)} {before after : List Outcome}
    {source : Outcome} {name : String} (sourceOutput : source.step.invocation.output = some name)
    (notInitial : name ∉ initial.map Prod.fst)
    (onlySource : ∀ other ∈ before ++ after, other.step.invocation.output ≠ some name) :
    (initial ++ capturesOf (before ++ source :: after)).lookup name = some source.output := by
  rw [capturesOf_append, ← List.append_assoc]
  have split : capturesOf (source :: after) = (name, source.output) :: capturesOf after := by
    simp [capturesOf, Outcome.capture?, sourceOutput]
  rw [split, List.lookup_eq_some_iff]
  refine ⟨_, _, rfl, ?_⟩
  rintro ⟨other, value⟩ member
  rw [bne_iff_ne]
  rintro rfl
  rcases List.mem_append.mp member with inInitial | inBefore
  · exact notInitial (List.mem_map.mpr ⟨_, inInitial, rfl⟩)
  · obtain ⟨outcome, outcomeMember, capture⟩ := List.mem_filterMap.mp inBefore
    obtain ⟨_, output, pairEq⟩ := Option.map_eq_some_iff.mp capture
    cases pairEq
    exact onlySource outcome (List.mem_append_left _ outcomeMember) output

namespace Template

theorem mem_references_iff {text name : String} :
    name ∈ references text ↔
      ∃ characters, Piece.placeholder characters ∈ pieces text.toList ∧
        String.ofList characters = name := by
  unfold references
  rw [List.mem_eraseDups, List.mem_filterMap]
  constructor
  · rintro ⟨piece, member, named⟩
    cases piece with
    | literal c => cases named
    | placeholder characters =>
        cases named
        exact ⟨characters, member, rfl⟩
  · rintro ⟨characters, member, rfl⟩
    exact ⟨_, member, rfl⟩

/-- Nothing fails when every reference has a value. -/
theorem interpolate_of_bound {values : String → Option String} {text : String}
    (bound : ∀ name ∈ references text, (values name).isSome = true) :
    interpolate values text =
      .ok (String.ofList ((pieces text.toList).flatMap (Piece.substitute values))) := by
  unfold interpolate
  have noneMissing : ((references text).find? fun name => (values name).isNone) = none := by
    rw [List.find?_eq_none]
    intro name member
    have present := bound name member
    simp only [Option.isNone_iff_eq_none]
    intro missing
    rw [missing] at present
    cases present
  rw [noneMissing]

end Template

/-- The values of the variables complete an instruction all of whose references are
captured. -/
theorem completed_substitute {initial : List (String × String)} {earlier : List Outcome}
    (distinct : ((capturesOf earlier).map Prod.fst).Nodup)
    (apart : ∀ name ∈ (capturesOf earlier).map Prod.fst, name ∉ initial.map Prod.fst)
    (pieces : List Template.Piece)
    (captured : ∀ characters, Template.Piece.placeholder characters ∈ pieces →
      String.ofList characters ∈ (capturesOf earlier).map Prod.fst) :
    Completed earlier pieces (pieces.flatMap
      (Template.Piece.substitute ((initial ++ capturesOf earlier).lookup ·))) := by
  induction pieces with
  | nil => exact .nil
  | cons piece pieces induction =>
      have rest := induction fun characters member =>
        captured characters (List.mem_cons_of_mem _ member)
      cases piece with
      | literal c => exact .literal rest
      | placeholder characters =>
          have nameCaptured := captured characters List.mem_cons_self
          obtain ⟨before, source, after, rfl, sourceOutput, onlySource⟩ :=
            exists_only_source distinct nameCaptured
          have value := lookup_capturesOf sourceOutput
            (apart _ nameCaptured) onlySource
          rw [List.flatMap_cons]
          simp only [Template.Piece.substitute, value, Option.getD_some]
          exact .placeholder rfl sourceOutput onlySource rest

namespace Run

variable {σ : Type}

theorem ofExcept_interpolate {state : RunState σ} {step : Step} {instruction : String}
    (completed : Template.interpolate state.bindings.get? step.invocation.instruction =
      .ok instruction) :
    (ofExcept (Template.interpolate state.bindings.get? step.invocation.instruction) :
      Running σ String) state = (.ok instruction, state) := by
  rw [completed]
  rfl

theorem dispatch_of_answer {dispatcher : Dispatcher σ} {step : Step} {state : RunState σ}
    {instruction output : String} {next : σ}
    (answer : dispatcher.dispatch state.dispatcher step instruction = (.ok output, next)) :
    dispatch dispatcher step instruction state = (.ok output, { state with dispatcher := next }) := by
  show (ofExcept (dispatcher.dispatch state.dispatcher step instruction).1)
    { state with dispatcher := (dispatcher.dispatch state.dispatcher step instruction).2 } = _
  rw [answer]
  rfl

theorem dispatch_of_error {dispatcher : Dispatcher σ} {step : Step} {state : RunState σ}
    {instruction : String} {error : Error} {next : σ}
    (answer : dispatcher.dispatch state.dispatcher step instruction = (.error error, next)) :
    dispatch dispatcher step instruction state =
      (.error (.failed error), { state with dispatcher := next }) := by
  show (ofExcept (dispatcher.dispatch state.dispatcher step instruction).1)
    { state with dispatcher := (dispatcher.dispatch state.dispatcher step instruction).2 } = _
  rw [answer]
  rfl

/-- A step whose references are bound and whose output is free is run to its end. -/
theorem runStep_of_answer {dispatcher : Dispatcher σ} {registry : Option Store} {step : Step}
    {state : RunState σ} {instruction output : String} {next : σ} {bindings : Variables}
    {counted : Machine}
    (completed : Template.interpolate state.bindings.get? step.invocation.instruction =
      .ok instruction)
    (answer : dispatcher.dispatch state.dispatcher step instruction = (.ok output, next))
    (bound : captureOutput step output { state with dispatcher := next } =
      (.ok (), { state with dispatcher := next, bindings := bindings }))
    (counts : countUse registry step { state with dispatcher := next, bindings := bindings } =
      (.ok (), ⟨bindings, next, counted⟩)) :
    ∃ machine, machine.disk = counted.disk ∧ machine.mishaps = counted.mishaps ∧
      runStep dispatcher registry step state =
        (.ok ⟨step, instruction, output⟩, ⟨bindings, next, machine⟩) := by
  refine ⟨{ counted with
    records := counted.records ++
      [⟨.info, logger, finished step (dispatcher.elapsed next)⟩] }, rfl, rfl, ?_⟩
  unfold runStep
  refine (get_bind _ state).trans ?_
  refine (bind_of_ok (ofExcept_interpolate completed)).trans ?_
  refine (bind_of_ok (dispatch_of_answer answer)).trans ?_
  refine (bind_of_ok bound).trans ?_
  refine (bind_of_ok counts).trans ?_
  rfl

/-- Binding the output of a step adds its capture to the variables. -/
theorem captureOutput_of_free {step : Step} (instruction output : String) (state : RunState σ)
    (isNew : ∀ name, step.invocation.output = some name → name ∉ state.bindings.names) :
    ∃ bindings : Variables,
      bindings.entries = state.bindings.entries ++ capturesOf [⟨step, instruction, output⟩] ∧
        captureOutput step output state = (.ok (), { state with bindings := bindings }) := by
  cases captured : step.invocation.output with
  | none =>
      refine ⟨state.bindings, ?_, ?_⟩
      · simp [capturesOf, Outcome.capture?, captured]
      · simp only [captureOutput, captured]
        rfl
  | some name =>
      have free : name ∉ state.bindings.entries.map Prod.fst := isNew name captured
      have valid := step.invocation.output_isIdentifier name captured
      refine ⟨⟨state.bindings.entries ++ [(name, output)], ?_⟩, ?_, ?_⟩
      · rw [List.map_append]
        exact Variables.nodup_append_new state.bindings.distinct free
      · simp [capturesOf, Outcome.capture?, captured]
      · simp only [captureOutput, captured]
        refine (get_bind _ state).trans ?_
        simp only [Variables.bind, valid, free, if_true, dif_pos, not_false_eq_true]
        rfl

theorem captureOutput_of_taken {step : Step} {name output : String} {state : RunState σ}
    (captured : step.invocation.output = some name) (taken : name ∈ state.bindings.names) :
    captureOutput step output state = (.error (.failed (.boundTwice name)), state) := by
  have valid := step.invocation.output_isIdentifier name captured
  have inEntries : name ∈ state.bindings.entries.map Prod.fst := taken
  simp only [captureOutput, captured]
  refine (get_bind _ state).trans ?_
  simp only [Variables.bind, valid, inEntries, if_true, dif_neg, not_true_eq_false,
    not_false_eq_true]
  rfl

/-- A step whose references are captured, and whose output is not, is run to its end.  The
variables are those of the start and the captures so far, before the step and after it. -/
theorem runStep_of_captured {dispatcher : Dispatcher σ}
    (answers : ∀ state step instruction, ∃ output,
      (dispatcher.dispatch state step instruction).1 = .ok output)
    {initial : List (String × String)} {earlier : List Outcome} {state : RunState σ} {step : Step}
    (bound : state.bindings.entries = initial ++ capturesOf earlier)
    (apart : ∀ name ∈ (capturesOf earlier).map Prod.fst, name ∉ initial.map Prod.fst)
    (usesCaptured : ∀ name ∈ Template.references step.invocation.instruction,
      name ∈ (capturesOf earlier).map Prod.fst)
    (free : ∀ name, step.invocation.output = some name → name ∉ state.bindings.names) :
    ∃ outcome after, runStep dispatcher none step state = (.ok outcome, after) ∧
      outcome.step = step ∧
      dispatcher.dispatch state.dispatcher step outcome.instruction =
        (.ok outcome.output, after.dispatcher) ∧
      Completed earlier (Template.pieces step.invocation.instruction.toList)
        outcome.instruction.toList ∧
      after.bindings.entries = initial ++ capturesOf (earlier ++ [outcome]) ∧
      after.machine.disk = state.machine.disk := by
  have distinct : ((capturesOf earlier).map Prod.fst).Nodup := by
    have allDistinct := state.bindings.distinct
    rw [bound, List.map_append] at allDistinct
    exact (List.nodup_append.mp allDistinct).2.1
  have allBound : ∀ name ∈ Template.references step.invocation.instruction,
      (state.bindings.get? name).isSome = true := by
    intro name member
    unfold Variables.get?
    rw [lookup_isSome_iff_mem, bound, List.map_append]
    exact List.mem_append_right _ (usesCaptured name member)
  have interpolated := Template.interpolate_of_bound allBound
  have completed := completed_substitute distinct apart
    (Template.pieces step.invocation.instruction.toList)
    fun characters member =>
      usesCaptured _ (Template.mem_references_iff.mpr ⟨characters, member, rfl⟩)
  have valuesOf : state.bindings.get? = ((initial ++ capturesOf earlier).lookup ·) := by
    funext name
    unfold Variables.get?
    rw [bound]
  rw [← valuesOf, ← String.toList_ofList (l := List.flatMap _ _)] at completed
  generalize String.ofList _ = instruction at interpolated completed
  obtain ⟨output, answered⟩ := answers state.dispatcher step instruction
  obtain ⟨bindings, entries, captureRun⟩ := captureOutput_of_free
    instruction output
    { state with dispatcher := (dispatcher.dispatch state.dispatcher step instruction).2 } free
  obtain ⟨machine, sameDisk, _, stepRun⟩ :=
    @runStep_of_answer _ _ none _ _ _ _ _ _ _ interpolated (Prod.ext answered rfl) captureRun rfl
  refine ⟨⟨step, instruction, output⟩, _, stepRun, rfl, Prod.ext answered rfl, completed, ?_,
    sameDisk⟩
  rw [entries, capturesOf_append, ← List.append_assoc, bound]

/-- What a run of steps leaves behind when it succeeds, after the outcomes of the steps
before it. -/
structure Succeeds (dispatcher : Dispatcher σ) (initial : List (String × String))
    (earlier : List Outcome) (steps : List Step) (state : RunState σ)
    (outcomes : List Outcome) (final : RunState σ) : Prop where
  result : runSteps dispatcher none steps state = (.ok outcomes, final)
  steps_eq : outcomes.map Outcome.step = steps
  dispatched : Dispatched dispatcher state.dispatcher outcomes final.dispatcher
  completed : ∀ before outcome after, outcomes = before ++ outcome :: after →
    Completed (earlier ++ before) (Template.pieces outcome.step.invocation.instruction.toList)
      outcome.instruction.toList
  entries : final.bindings.entries = initial ++ capturesOf (earlier ++ outcomes)
  disk : final.machine.disk = state.machine.disk

/-- The loop invariant of a run carries a well-scoped rest of a workflow to its end. -/
theorem runSteps_of_wellScoped {dispatcher : Dispatcher σ}
    (answers : ∀ state step instruction, ∃ output,
      (dispatcher.dispatch state step instruction).1 = .ok output)
    {captured : List String} {steps : List Step} (wellScoped : WellScoped captured steps)
    (initial : List (String × String)) (earlier : List Outcome) (state : RunState σ)
    (capturedEarlier : (capturesOf earlier).map Prod.fst = captured)
    (bound : state.bindings.entries = initial ++ capturesOf earlier)
    (apart : ∀ name ∈ captured ++ outputsOf steps, name ∉ initial.map Prod.fst) :
    ∃ outcomes final, Succeeds dispatcher initial earlier steps state outcomes final := by
  induction wellScoped generalizing earlier state with
  | nil =>
      refine ⟨[], state, rfl, rfl, .nil, ?_, by simpa using bound, rfl⟩
      intro before outcome after equality
      simp at equality
  | @cons captured step rest usesCaptured isNew _ induction =>
      have free : ∀ name, step.invocation.output = some name → name ∉ state.bindings.names := by
        intro name outputEq
        unfold Variables.names
        rw [bound, List.map_append, capturedEarlier, List.mem_append]
        rintro (inInitial | inCaptured)
        · apply apart name ?_ inInitial
          rw [outputsOf_cons, outputEq]
          simp
        · exact isNew name outputEq inCaptured
      subst capturedEarlier
      obtain ⟨outcome, after, stepRun, rfl, dispatched, completed, entries, sameDisk⟩ :=
        runStep_of_captured answers bound
          (fun name member => apart name (List.mem_append_left _ member)) usesCaptured free
      obtain ⟨outcomes, final, succeeds⟩ := @induction (earlier ++ [outcome]) after
        (by
          rw [capturesOf_append, List.map_append, names_capturesOf [outcome], List.map_singleton,
            outputsOf_cons]
          simp [outputsOf])
        entries
        (by
          intro name member
          apply apart
          rw [outputsOf_cons, ← List.append_assoc]
          exact member)
      refine ⟨outcome :: outcomes, final, ?_, ?_, .cons dispatched succeeds.dispatched, ?_, ?_,
        ?_⟩
      · unfold runSteps
        refine (bind_of_ok stepRun).trans ?_
        refine (bind_of_ok succeeds.result).trans ?_
        rfl
      · rw [List.map_cons, succeeds.steps_eq]
      · intro before other later split
        cases before with
        | nil =>
            cases split
            rwa [List.append_nil]
        | cons first before =>
            obtain ⟨rfl, restSplit⟩ := List.cons.inj split
            have rest := succeeds.completed before other later restSplit
            rwa [List.append_assoc] at rest
      · rw [succeeds.entries, List.append_assoc]
        rfl
      · rw [succeeds.disk, sameDisk]

/-- Static checking is sound for execution.  A compiled workflow runs to its end with every
dispatcher that answers, started with any variables that share no name with its outputs:
each step is dispatched once and in order, with the outputs of earlier steps in the place of
its placeholders, and the variables grow by the outputs of the workflow in their order. -/
theorem run_of_compiled {lookup : Lookup} {default : Value} {source : String} {program : Program}
    (compiled : (Program.compile lookup default source).result = .ok program)
    {dispatcher : Dispatcher σ}
    (answers : ∀ state step instruction, ∃ output,
      (dispatcher.dispatch state step instruction).1 = .ok output)
    {state : RunState σ} (disjoint : ∀ name ∈ program.outputs, name ∉ state.bindings.names) :
    ∃ outcomes final, run dispatcher none program state = (.ok outcomes, final) ∧
      outcomes.map Outcome.step = program.steps ∧
      Dispatched dispatcher state.dispatcher outcomes final.dispatcher ∧
      (∀ earlier outcome later, outcomes = earlier ++ outcome :: later →
        Completed earlier (Template.pieces outcome.step.invocation.instruction.toList)
          outcome.instruction.toList) ∧
      final.bindings.entries = state.bindings.entries ++ capturesOf outcomes ∧
      (capturesOf outcomes).map Prod.fst = program.outputs ∧
      program.outputs.Nodup ∧
      final.machine.disk = state.machine.disk := by
  have wellScoped := Program.wellScoped_of_compile compiled
  obtain ⟨outcomes, final, succeeds⟩ := runSteps_of_wellScoped answers wellScoped
    state.bindings.entries [] state rfl (by simp [capturesOf]) disjoint
  refine ⟨outcomes, { final with machine := { final.machine with
    records := final.machine.records ++ [⟨.info, logger,
      "Workflow run finished: " ++ Number.integerText outcomes.length ++ " node(s)"⟩] } },
    ?_, succeeds.steps_eq, succeeds.dispatched, succeeds.completed, succeeds.entries, ?_, ?_,
    succeeds.disk⟩
  · unfold run
    exact (bind_of_ok succeeds.result).trans rfl
  · rw [names_capturesOf, succeeds.steps_eq]
    rfl
  · exact wellScoped.outputs_nodup List.nodup_nil

/-- A macro whose text refers to an earlier output, and a dispatcher whose answers hold
placeholders, quotes and backslashes. -/
theorem run_of_compiled_macro :
    ∃ program, (Program.compile (fun name => pure (some ⟨name, .builtin, none⟩)) defaultModel
        "a:\"x\":v\n$m := \x7b base: \"b\", prompt: \"see \x7bv\x7d\" \x7d\n$m:\"\x7bv\x7d\":w").result =
          .ok program ∧
      program.outputs = ["v", "w"] ∧
      ∃ outcomes final,
        run ⟨fun state _ instruction => (.ok ("\x7bv\x7d\"\\" ++ instruction), state), fun _ => ""⟩
          none program ⟨⟨[("u", "1")], by decide⟩, (), Machine.ofDisk ⟨[], []⟩⟩ =
            (.ok outcomes, final) ∧
        final.bindings.names = ["u", "v", "w"] := by
  have compiles : (Program.compile (fun name => pure (some ⟨name, .builtin, none⟩)) defaultModel
      "a:\"x\":v\n$m := \x7b base: \"b\", prompt: \"see \x7bv\x7d\" \x7d\n$m:\"\x7bv\x7d\":w").result.toOption.map
        Program.outputs = some ["v", "w"] := by decide +kernel
  obtain ⟨program, found, outputs⟩ := Option.map_eq_some_iff.mp compiles
  have compiled := toOption_eq_some_iff.mp found
  let start : RunState Unit := ⟨⟨[("u", "1")], by decide⟩, (), Machine.ofDisk ⟨[], []⟩⟩
  have apart : ∀ name ∈ program.outputs, name ∉ start.bindings.names := by
    rw [outputs]
    decide
  let echo : Dispatcher Unit :=
    ⟨fun state _ instruction => (.ok ("\x7bv\x7d\"\\" ++ instruction), state), fun _ => ""⟩
  have answers : ∀ state step instruction, ∃ output,
      (echo.dispatch state step instruction).1 = .ok output := fun _ _ _ => ⟨_, rfl⟩
  obtain ⟨outcomes, final, ran, _, _, _, entries, names, _⟩ :=
    run_of_compiled compiled answers apart
  refine ⟨program, compiled, outputs, outcomes, final, ran, ?_⟩
  unfold Variables.names
  rw [entries, List.map_append, names, outputs]
  rfl

end Run

end AgentFlow
