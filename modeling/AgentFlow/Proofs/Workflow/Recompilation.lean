import AgentFlow.Proofs.Workflow.DefaultModel
import AgentFlow.Proofs.Workflow.Expansion
import AgentFlow.Proofs.Workflow.Scope

/-!
# Compiling the text of an expanded source

Compilation reads the texts of the expanded statements.  The lines they stand on and
the macros they came from go into the messages of errors and into the steps, but decide
neither whether a statement compiles nor what it calls.
-/

namespace AgentFlow

open AgentFlow.Text

/-- Errors of one kind that name the same thing. -/
structure Error.SameKind (e other : Error) : Prop where
  kind : e.kind? = other.kind?
  name : e.name? = other.name?
  foreign : e.kind? = none → e = other

theorem Error.SameKind.refl (e : Error) : e.SameKind e :=
  ⟨rfl, rfl, fun _ => rfl⟩

/-- Related answers, or errors of one kind that name the same thing. -/
inductive SameOutcome {α β : Type} (related : α → β → Prop) :
    Except Error α → Except Error β → Prop where
  | ok {answer : α} {other : β} :
      related answer other → SameOutcome related (.ok answer) (.ok other)
  | error {e other : Error} :
      e.SameKind other → SameOutcome related (.error e) (.error other)

namespace SameOutcome

theorem refl {α : Type} (result : Except Error α) : SameOutcome Eq result result := by
  cases result with
  | error e => exact .error (.refl e)
  | ok answer => exact .ok rfl

theorem bind {α α' β β' : Type} {related : α → α' → Prop} {relatedNext : β → β' → Prop}
    {first : Except Error α} {other : Except Error α'} {next : α → Except Error β}
    {otherNext : α' → Except Error β'} (same : SameOutcome related first other)
    (sameNext : ∀ answer otherAnswer, related answer otherAnswer →
      SameOutcome relatedNext (next answer) (otherNext otherAnswer)) :
    SameOutcome relatedNext (first >>= next) (other >>= otherNext) := by
  cases same with
  | ok areRelated => exact sameNext _ _ areRelated
  | error sameKind => exact .error sameKind

end SameOutcome

/-- Steps that call the same agent in the same way. -/
structure Step.SameCall (step other : Step) : Prop where
  invocation : step.invocation = other.invocation
  descriptor : step.descriptor = other.descriptor
  uses : step.uses = other.uses

namespace Program

/-- Tables that hold the same names in the same order. -/
def SameNames (captures other : Captures) : Prop :=
  captures.map Prod.fst = other.map Prod.fst

theorem isSome_lookup_sameNames {captures other : Captures} (same : SameNames captures other)
    (name : String) : (captures.lookup name).isSome = (other.lookup name).isSome := by
  rw [Bool.eq_iff_iff, lookup_isSome_iff_mem, lookup_isSome_iff_mem, same]

theorem checkUses_sameNames {captures other : Captures} (same : SameNames captures other)
    (place otherPlace : Place) (uses : List String) :
    SameOutcome Eq (checkUses place captures uses) (checkUses otherPlace other uses) := by
  have sameTest : (fun name => (captures.lookup name).isNone) =
      fun name => (other.lookup name).isNone := by
    funext name
    rw [← Option.not_isSome, ← Option.not_isSome, isSome_lookup_sameNames same]
  unfold checkUses
  rw [sameTest]
  cases uses.find? fun name => (other.lookup name).isNone with
  | none => exact .ok rfl
  | some name => exact .error ⟨rfl, rfl, nofun⟩

theorem capture_sameNames {captures other : Captures} (same : SameNames captures other)
    (place otherPlace : Place) (line otherLine : Nat) (output : Option String) :
    SameOutcome SameNames (capture place line captures output)
      (capture otherPlace otherLine other output) := by
  cases output with
  | none => exact .ok same
  | some name =>
      have sameTest := isSome_lookup_sameNames same name
      unfold capture
      cases found : captures.lookup name with
      | some first =>
          rw [found] at sameTest
          obtain ⟨otherFirst, otherFound⟩ := Option.isSome_iff_exists.mp sameTest.symm
          simp only [found, otherFound]
          exact .error ⟨rfl, rfl, nofun⟩
      | none =>
          rw [found] at sameTest
          have otherAbsent : other.lookup name = none := by simpa using sameTest.symm
          simp only [found, otherAbsent]
          refine .ok ?_
          unfold SameNames at same ⊢
          simp [same]

theorem findAgent_place (lookup : Lookup) (place otherPlace : Place) (name : String) :
    SameOutcome Eq (findAgent lookup place name).result
      (findAgent lookup otherPlace name).result := by
  rw [result_findAgent, result_findAgent]
  refine .bind (.refl _) ?_
  rintro found _ rfl
  cases found with
  | none => exact .error ⟨rfl, rfl, nofun⟩
  | some descriptor => exact .ok rfl

theorem parse_place (text : String) (place otherPlace : Place) (said otherSaid : String) :
    SameOutcome Eq
      ((Invocation.parse text).mapError fun e =>
        match e with
        | .malformed fault _ _ => .malformed fault place said
        | e => e)
      ((Invocation.parse text).mapError fun e =>
        match e with
        | .malformed fault _ _ => .malformed fault otherPlace otherSaid
        | e => e) := by
  cases Invocation.parse text with
  | ok invocation => exact .ok rfl
  | error e =>
      refine .error ?_
      cases e with
      | malformed => exact ⟨rfl, rfl, nofun⟩
      | _ => exact .refl _

theorem compileStatement_sameText (lookup : Lookup) {captures other : Captures}
    (same : SameNames captures other) {statement otherStatement : Statement}
    (sameText : statement.text = otherStatement.text) :
    SameOutcome
      (fun compiled otherCompiled =>
        compiled.1.SameCall otherCompiled.1 ∧ SameNames compiled.2 otherCompiled.2)
      (compileStatement lookup captures statement).result
      (compileStatement lookup other otherStatement).result := by
  rw [result_compileStatement, result_compileStatement, ← sameText]
  refine .bind (parse_place statement.text _ _ _ _) ?_
  rintro invocation _ rfl
  refine .bind (findAgent_place lookup _ _ _) ?_
  rintro descriptor _ rfl
  refine .bind (checkUses_sameNames same _ _ _) ?_
  rintro _ _ rfl
  refine .bind (capture_sameNames same _ _ _ _ _) ?_
  intro after otherAfter sameAfter
  exact .ok ⟨⟨rfl, rfl, rfl⟩, sameAfter⟩

theorem compileAll_sameTexts (lookup : Lookup) {captures other : Captures}
    (same : SameNames captures other) {statements others : List Statement}
    (sameTexts : statements.map (·.text) = others.map (·.text)) :
    SameOutcome (List.Forall₂ Step.SameCall) (compileAll lookup captures statements).result
      (compileAll lookup other others).result := by
  induction statements generalizing captures other others with
  | nil =>
      obtain rfl := List.map_eq_nil_iff.mp sameTexts.symm
      exact .ok .nil
  | cons statement rest induction =>
      obtain ⟨otherStatement, otherRest, rfl, sameText, sameRest⟩ :=
        List.map_eq_cons_iff.mp sameTexts.symm
      rw [result_compileAll_cons, result_compileAll_cons]
      refine .bind (compileStatement_sameText lookup same sameText.symm) ?_
      rintro ⟨step, after⟩ ⟨otherStep, otherAfter⟩ ⟨sameCall, sameAfter⟩
      refine .bind (induction sameAfter sameRest.symm) ?_
      intro steps otherSteps sameCalls
      exact .ok (.cons sameCall sameCalls)

theorem result_compile_of_expanded {source : String} {default : Value} {expanded : Expanded}
    (expands : Expanded.ofSource source default = .ok expanded) (lookup : Lookup) :
    (compile lookup default source).result =
      (compileAll lookup [] expanded.statements).result >>= fun steps =>
        .ok ⟨steps, expanded.macros⟩ := by
  rw [result_compile, expands]
  rfl

/-- The text of an expanded source is a source of its own: expanding it changes nothing,
and it compiles just when the source does, to steps that make the same calls, or else to an
error of the same kind and name. -/
theorem expanded_text_fixpoint {source : String} {default : Value} {expanded : Expanded}
    (expands : Expanded.ofSource source default = .ok expanded) :
    (∀ other, ∃ again, Expanded.ofSource expanded.text other = .ok again ∧
      again.statements.map (·.text) = expanded.statements.map (·.text) ∧
      again.macros = [] ∧ again.expansions = []) ∧
    ∀ lookup model otherModel,
      SameOutcome
        (fun program other => List.Forall₂ Step.SameCall program.steps other.steps)
        (compile lookup model source).result
        (compile lookup otherModel expanded.text).result := by
  constructor
  · intro other
    exact ⟨_, Expanded.ofSource_text expands other, Expanded.text_split_text expands, rfl,
      Expanded.expansions_split _⟩
  · intro lookup model otherModel
    obtain ⟨alike, alikeExpands, sameTexts⟩ := Expanded.ofSource_default expands model
    rw [result_compile_of_expanded alikeExpands,
      result_compile_of_expanded (Expanded.ofSource_text expands otherModel)]
    refine .bind (compileAll_sameTexts lookup rfl ?_) ?_
    · rw [sameTexts, Expanded.text_split_text expands]
    · intro steps otherSteps sameCalls
      exact .ok sameCalls

/-- A macro on several lines whose call stands before it, and a statement that is left open. -/
theorem expanded_text_fixpoint_macro :
    ∃ expanded, Expanded.ofSource
        "$m:\"say \\\"\x7bv\x7d\\\"\nto\"\n$m := \x7b base: \"b\",\n prompt: \"one\n# two\" \x7d\n a:\"x \x7b\n "
        defaultModel = .ok expanded ∧
      expanded.text = "b:\"one\n# two\n\nsay \\\"\x7bv\x7d\\\"\nto\"\na:\"x \x7b" ∧
      ∃ again, Expanded.ofSource expanded.text defaultModel = .ok again ∧
        again.statements.map (·.text) = expanded.statements.map (·.text) := by
  have expandsTo : (Expanded.ofSource
      "$m:\"say \\\"\x7bv\x7d\\\"\nto\"\n$m := \x7b base: \"b\",\n prompt: \"one\n# two\" \x7d\n a:\"x \x7b\n "
      defaultModel).toOption.map Expanded.text =
        some "b:\"one\n# two\n\nsay \\\"\x7bv\x7d\\\"\nto\"\na:\"x \x7b" := by decide +kernel
  obtain ⟨expanded, found, text⟩ := Option.map_eq_some_iff.mp expandsTo
  have expands := toOption_eq_some_iff.mp found
  obtain ⟨again, expandsAgain, sameTexts, _⟩ :=
    (expanded_text_fixpoint expands).1 defaultModel
  exact ⟨expanded, expands, text, again, expandsAgain, sameTexts⟩

end Program

end AgentFlow
