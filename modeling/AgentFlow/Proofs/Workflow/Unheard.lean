import AgentFlow.Proofs.Agent.Overlong
import AgentFlow.Proofs.Agent.Shadowing
import AgentFlow.Proofs.Workflow.Diagnosis
import AgentFlow.Proofs.Workflow.Tiers

/-!
# Lookups that fail

Compilation looks up the agents of its statements.  A lookup that fails ends it right where a name
that is unknown would, and with its own error instead of one that names the statement.  So the
diagnosis of a source, with the failures taken for unknown names, also tells when a lookup fails.
For the tiers of a store that can be read only a name that is too long makes it fail.
-/

namespace AgentFlow

open AgentFlow.Text

/-- The kinds of errors that compilation is documented to end with. -/
def documentedKinds : List ErrorKind :=
  [.malformed, .undefinedMacro, .circularMacro, .unknownAgent, .undefinedVariable,
    .duplicateOutput]

/-- An error of a documented kind. -/
def Error.IsDocumented (e : Error) : Prop := ∃ kind ∈ documentedKinds, e.kind? = some kind

theorem Error.IsPlaced.isDocumented {line : Nat} {e : Error} (isPlaced : e.IsPlaced line) :
    e.IsDocumented := by
  cases isPlaced with
  | malformed => exact ⟨.malformed, by simp [documentedKinds], rfl⟩
  | unknownAgent => exact ⟨.unknownAgent, by simp [documentedKinds], rfl⟩
  | undefinedVariable => exact ⟨.undefinedVariable, by simp [documentedKinds], rfl⟩
  | duplicateOutput => exact ⟨.duplicateOutput, by simp [documentedKinds], rfl⟩
  | undefinedMacro => exact ⟨.undefinedMacro, by simp [documentedKinds], rfl⟩
  | circularMacro => exact ⟨.circularMacro, by simp [documentedKinds], rfl⟩

namespace Program

variable {lookup : Lookup} {default : Value} {source : String} {offender : Statement}
  {statement : Statement} {captures : Captures} {e : Error}

/-- The error of a diagnosis lies in the statement at fault. -/
theorem Diagnosis.isPlaced (diagnosis : Diagnosis lookup default source offender e) :
    e.IsPlaced offender.line := by
  cases diagnosis with
  | definition first =>
      obtain ⟨_, faulty⟩ := first.exists_fault
      exact isPlaced_of_definitionFault faulty
  | call _ first =>
      obtain ⟨_, faulty⟩ := first.exists_fault
      exact isPlaced_of_callFault faulty.fault
  | step expands first paired =>
      obtain ⟨_, faulty⟩ := first.exists_fault
      obtain ⟨_, _, inlines⟩ := Expanded.inlines_of_ofSource expands
      have sameLine := line_of_inlines (List.forall₂_zip inlines paired)
      rw [← sameLine]
      exact isPlaced_of_stepFault faulty

/-! ## Failures taken for unknown names -/

/-- The lookup that takes every failure for an unknown name. -/
def heard (lookup : Lookup) : Lookup := fun name => pure (lookup name).result.toOption.join

/-- The error in which a compilation ends: where it is that an agent is unknown, a failure of the
lookup comes first. -/
def unheard (lookup : Lookup) : Error → Error
  | .unknownAgent name place =>
    match (lookup name).result with
    | .error cause => cause
    | .ok _ => .unknownAgent name place
  | e => e

theorem heard_answers (name : String) : ∃ found, (heard lookup name).result = .ok found :=
  ⟨_, rfl⟩

theorem result_findAgent_heard {place : Place} {name : String} :
    (findAgent lookup place name).result =
      (findAgent (heard lookup) place name).result.mapError (unheard lookup) := by
  rw [result_findAgent, result_findAgent]
  cases asked : (lookup name).result with
  | error cause =>
      simp [heard, asked, Except.toOption, bind, Except.bind, Except.mapError, unheard]
  | ok found =>
      cases found with
      | none => simp [heard, asked, Except.toOption, bind, Except.bind, Except.mapError, unheard]
      | some descriptor =>
          simp [heard, asked, Except.toOption, bind, Except.bind, Except.mapError]

theorem unheard_of_checkUses {place : Place} {uses : List String}
    (failed : checkUses place captures uses = .error e) : unheard lookup e = e := by
  unfold checkUses at failed
  split at failed
  · cases failed
    rfl
  · cases failed

theorem unheard_of_capture {place : Place} {line : Nat} {output : Option String}
    (failed : capture place line captures output = .error e) : unheard lookup e = e := by
  unfold capture at failed
  split at failed
  · cases failed
  · split at failed
    · cases failed
      rfl
    · cases failed

theorem result_compileStatement_heard :
    (compileStatement lookup captures statement).result =
      (compileStatement (heard lookup) captures statement).result.mapError (unheard lookup) := by
  rw [result_compileStatement, result_compileStatement]
  cases parsed : Invocation.parse statement.text with
  | error cause =>
      obtain ⟨fault, rfl⟩ := Invocation.malformed_of_parse parsed
      rfl
  | ok invocation =>
      show (findAgent lookup statement.place invocation.agentName).result >>= _ =
        ((findAgent (heard lookup) statement.place invocation.agentName).result >>= _).mapError _
      rw [result_findAgent_heard, mapError_bind]
      refine bind_congr fun descriptor => ?_
      rw [mapError_bind, mapError_eq_self fun _ => unheard_of_checkUses]
      refine bind_congr fun _ => ?_
      rw [mapError_bind, mapError_eq_self fun _ => unheard_of_capture]
      rfl

theorem result_compileAll_heard {statements : List Statement} :
    (compileAll lookup captures statements).result =
      (compileAll (heard lookup) captures statements).result.mapError (unheard lookup) := by
  induction statements generalizing captures with
  | nil => rfl
  | cons statement rest induction =>
      simp only [result_compileAll_cons, mapError_bind, ← result_compileStatement_heard, ← induction]
      rfl

/-- The errors of macros do not tell of agents. -/
theorem unheard_of_ofSource (failed : Expanded.ofSource source default = .error e) :
    unheard lookup e = e := by
  rcases Expanded.ofSource_eq_error_iff.mp failed with ⟨offender, first⟩ | ⟨_, offender, _, first⟩
  · obtain ⟨_, faulty⟩ := first.exists_fault
    cases faulty <;> rfl
  · obtain ⟨_, faulty⟩ := first.exists_fault
    cases faulty.fault with
    | malformed => rfl
    | empty => rfl
    | unresolved _ _ _ astray => cases astray <;> rfl

/-- Compilation is as if all failures were unknown names, but for the error in which it ends. -/
theorem result_compile_heard :
    (compile lookup default source).result =
      (compile (heard lookup) default source).result.mapError (unheard lookup) := by
  rw [result_compile, result_compile, mapError_bind,
    mapError_eq_self fun _ => unheard_of_ofSource]
  refine bind_congr fun expanded => ?_
  rw [mapError_bind, result_compileAll_heard]
  rfl

theorem compile_eq_error_iff_heard :
    (compile lookup default source).result = .error e ↔
      ∃ offender cause, Diagnosis (heard lookup) default source offender cause ∧
        unheard lookup cause = e := by
  rw [result_compile_heard, mapError_eq_error_iff]
  simp only [compile_eq_error_iff heard_answers]
  constructor
  · rintro ⟨cause, ⟨offender, diagnosis⟩, same⟩
    exact ⟨offender, cause, diagnosis, same⟩
  · rintro ⟨offender, cause, diagnosis, same⟩
    exact ⟨cause, ⟨offender, diagnosis⟩, same⟩

end Program

namespace Store

variable {store : Store} {disk : Disk} {builtins : List Value} {default : Value} {source : String}
  {e : Error}

/-- The error of a name that is refused, as it were that of an unknown one. -/
def Blames (store : Store) (builtins : List Value) (disk : Disk) (e : Error) : Prop :=
  ∃ name place, e = .unknownAgent name place ∧ store.Refuses builtins disk name

theorem unheard_of_blames (readable : store.Readable disk) (blames : store.Blames builtins disk e) :
    Program.unheard (store.resolves builtins disk) e = .unexpected (.file .nameTooLong) := by
  obtain ⟨name, place, rfl, refuses⟩ := blames
  have failed := (resolves_eq_error_iff readable).mpr ⟨rfl, refuses⟩
  simp [Program.unheard, failed]

theorem unheard_of_not_blames (readable : store.Readable disk)
    (notBlames : ¬store.Blames builtins disk e) :
    Program.unheard (store.resolves builtins disk) e = e := by
  cases e with
  | unknownAgent name place =>
      cases asked : (store.resolves builtins disk name).result with
      | ok found => simp [Program.unheard, asked]
      | error cause =>
          have refuses := ((resolves_eq_error_iff readable).mp asked).2
          exact absurd ⟨name, place, rfl, refuses⟩ notBlames
  | _ => rfl

/-- With the tiers of a store compilation ends with the error of its diagnosis, unless that is the
error of a name that is refused. -/
theorem compile_resolves_eq_error_iff (readable : store.Readable disk) :
    (Program.compile (store.resolves builtins disk) default source).result = .error e ↔
      (e.IsDocumented ∧ ¬store.Blames builtins disk e ∧ ∃ offender,
        Program.Diagnosis (Program.heard (store.resolves builtins disk)) default source offender e) ∨
      (e = .unexpected (.file .nameTooLong) ∧ ∃ offender cause,
        Program.Diagnosis (Program.heard (store.resolves builtins disk)) default source offender
          cause ∧ store.Blames builtins disk cause) := by
  rw [Program.compile_eq_error_iff_heard]
  constructor
  · intro failed
    obtain ⟨offender, cause, diagnosis, same⟩ := failed
    by_cases blames : store.Blames builtins disk cause
    · rw [unheard_of_blames readable blames] at same
      exact .inr ⟨same.symm, offender, cause, diagnosis, blames⟩
    · rw [unheard_of_not_blames readable blames] at same
      subst same
      exact .inl ⟨diagnosis.isPlaced.isDocumented, blames, offender, diagnosis⟩
  · rintro (⟨_, notBlames, offender, diagnosis⟩ | ⟨rfl, offender, cause, diagnosis, blames⟩)
    · exact ⟨offender, e, diagnosis, unheard_of_not_blames readable notBlames⟩
    · exact ⟨offender, cause, diagnosis, unheard_of_blames readable blames⟩

/-- Where the directories of both tiers are there, all names are told of but those that are
refused: they have the letters of a name and are too long for a file.  So compilation ends with an
error of a documented kind, the one of its diagnosis, unless the diagnosis is that such a name is
unknown. -/
theorem resolution_outcomes (readable : store.Readable disk) :
    (∀ name,
      (Tells (.ofStore store builtins) disk name ∧ ¬store.Refuses builtins disk name) ∨
      (Fails (.ofStore store builtins) disk name (.unexpected (.file .nameTooLong)) ∧
        store.Refuses builtins disk name)) ∧
    ∀ default source e,
      (Program.compile (store.resolves builtins disk) default source).result = .error e ↔
        (e.IsDocumented ∧ ¬store.Blames builtins disk e ∧ ∃ offender,
          Program.Diagnosis (Program.heard (store.resolves builtins disk)) default source offender
            e) ∨
        (e = .unexpected (.file .nameTooLong) ∧ ∃ offender cause,
          Program.Diagnosis (Program.heard (store.resolves builtins disk)) default source offender
            cause ∧ store.Blames builtins disk cause) := by
  constructor
  · exact tells_or_refuses readable
  · intro default source e
    exact compile_resolves_eq_error_iff readable

theorem readable_lentDisk : plainStore.Readable lentDisk where
  defined := toOption_eq_some_iff.mp (by decide +kernel)
  temporary := toOption_eq_some_iff.mp (by decide +kernel)

theorem refuses_longName : plainStore.Refuses [] lentDisk longName where
  identifier := isIdentifier_longName
  notBuiltin := rfl
  overlong := .inl (.inl (by decide +kernel))

/-- A temporary agent is told of, and a name that is too long is not. -/
theorem resolution_outcomes_lentDisk :
    plainStore.Readable lentDisk ∧ Tells (.ofStore plainStore []) lentDisk "a" ∧
      Fails (.ofStore plainStore []) lentDisk longName (.unexpected (.file .nameTooLong)) := by
  obtain ⟨told, _⟩ := @resolution_outcomes _ _ [] readable_lentDisk
  refine ⟨readable_lentDisk, ?_, ?_⟩
  · rcases told "a" with known | ⟨_, refuses⟩
    · exact known.1
    · rcases refuses.overlong with overlong | ⟨_, overlong⟩
      · exact absurd overlong (by unfold Overlong; decide +kernel)
      · exact absurd overlong (by unfold Overlong; decide +kernel)
  · rcases told longName with ⟨_, accepted⟩ | failed
    · exact absurd refuses_longName accepted
    · exact failed.1

/-- A name that an agent can have, in directories that can be read, is not told of. -/
theorem longName_not_told :
    plainStore.Readable lentDisk ∧ isIdentifier longName = true ∧
      (plainStore.resolves [] lentDisk longName).result =
        .error (.unexpected (.file .nameTooLong)) ∧
      ((Resolver.ofStore plainStore []).resolve lentDisk longName).result ≠
        .error (.unknownAgent longName .unplaced) := by
  have failed := (resolves_eq_error_iff readable_lentDisk).mpr ⟨rfl, refuses_longName⟩
  refine ⟨readable_lentDisk, isIdentifier_longName, failed, ?_⟩
  have resolved := (fails_of_error failed).resolve
  rw [resolved]
  nofun

end Store

end AgentFlow
