import AgentFlow.Proofs.Agent.Addition

/-!
# Names that cannot be asked about

Any name of letters, digits, hyphens and underscores can be that of an agent, however long it is.
The name of its definition file may be longer than a file system can hold, and then it cannot even
be asked whether there is such a file.  A name that no built-in agent has is resolved, or found to
be unknown, unless it is so long.
-/

namespace AgentFlow

open AgentFlow.Text

/-- The definition of a name has a file name that is too long, or a path that is. -/
def Overlong (directory : Path) (name : String) : Prop :=
  Disk.maxNameLength < (name ++ definitionSuffix).utf8ByteSize ∨
    Disk.maxPathLength ≤ (definitionPath directory name).text.utf8ByteSize

namespace Store

variable {store : Store} {disk : Disk} {name : String} {directory : Path} {source : Source}
  {builtins : List Value} {error : Error} {descriptor : Descriptor}

/-- The directories of both tiers are there. -/
structure Readable (store : Store) (disk : Disk) : Prop where
  defined : disk.isDirectory store.agentsDir = .ok true
  temporary : disk.isDirectory store.temporaryDir = .ok true

/-- A name that is refused: no built-in agent has it, and the first definition that is not found
missing is too long to be asked for. -/
structure Refuses (store : Store) (builtins : List Value) (disk : Disk) (name : String) :
    Prop where
  identifier : isIdentifier name = true
  notBuiltin : isBuiltin builtins name = false
  overlong : Overlong store.agentsDir name ∨
    disk.isFile (store.definedPath name) = .ok false ∧ Overlong store.temporaryDir name

/-- In a directory that is there only a definition that is too long cannot be asked for. -/
theorem isFile_definition_eq_error_iff (isThere : disk.isDirectory directory = .ok true)
    (identifier : isIdentifier name = true) :
    disk.isFile (definitionPath directory name) = .error .nameTooLong ↔
      Overlong directory name := by
  obtain ⟨reaches, here⟩ := Disk.isDirectory_eq_true_iff.mp isThere
  have noNul : (definitionPath directory name).hasNul = false := by
    rw [definitionPath_eq identifier, Path.hasNul, List.any_append, noNul_singleton identifier,
      Bool.or_false]
    exact reaches.noNul
  have followed : disk.follow (disk.start (definitionPath directory name))
      (definitionPath directory name).parts = .error .nameTooLong ↔
        Disk.maxNameLength < (name ++ definitionSuffix).utf8ByteSize := by
    rw [definitionPath_eq identifier, Disk.follow_child reaches here]
    split
    · rename_i long
      exact iff_of_true rfl long
    · rename_i short
      exact iff_of_false (fun failed => by cases failed) short
  refine Disk.ask_eq_error_iff.trans ?_
  rw [and_iff_right rfl, and_iff_right noNul, Disk.find_eq_nameTooLong_iff, followed]
  exact or_comm

theorem inDirectory_eq_error_iff (isThere : disk.isDirectory directory = .ok true)
    (identifier : isIdentifier name = true) :
    Tier.inDirectory disk source directory name = .error error ↔
      error = .unexpected (.file .nameTooLong) ∧ Overlong directory name := by
  rw [← isFile_definition_eq_error_iff isThere identifier, ← asks_isFile_eq_error_iff]
  refine bind_eq_error_iff.trans (or_iff_left ?_)
  rintro ⟨found, _, told⟩
  cases found <;> cases told

/-- A name is asked for in vain only if it is refused. -/
theorem resolves_eq_error_iff (readable : store.Readable disk) :
    (store.resolves builtins disk name).result = .error error ↔
      error = .unexpected (.file .nameTooLong) ∧ store.Refuses builtins disk name := by
  rw [resolves, result_tryResolve, firstClaim_eq]
  constructor
  · intro failed
    split at failed
    · rename_i identifier
      split at failed
      · cases failed
      · rename_i notBuiltin
        have notBuiltin : isBuiltin builtins name = false := by simpa using notBuiltin
        rcases bind_eq_error_iff.mp failed with first | ⟨claimed, told, next⟩
        · obtain ⟨rfl, overlong⟩ :=
            (inDirectory_eq_error_iff readable.defined identifier).mp first
          exact ⟨rfl, identifier, notBuiltin, .inl overlong⟩
        · obtain ⟨found, asked, rfl⟩ := inDirectory_eq_ok_iff.mp told
          cases found with
          | true => cases next
          | false =>
              obtain ⟨rfl, overlong⟩ :=
                (inDirectory_eq_error_iff readable.temporary identifier).mp next
              exact ⟨rfl, identifier, notBuiltin, .inr ⟨asked, overlong⟩⟩
    · cases failed
  · intro both
    obtain ⟨rfl, identifier, notBuiltin, overlong⟩ := both
    rw [if_pos identifier, if_neg (by simp [notBuiltin])]
    rcases overlong with first | ⟨missing, second⟩
    · have failed := (@inDirectory_eq_error_iff _ _ _ .defined _ readable.defined identifier).mpr
        ⟨rfl, first⟩
      exact bind_eq_error_iff.mpr (.inl failed)
    · refine bind_eq_error_iff.mpr (.inr ⟨none, inDirectory_of_isFile missing, ?_⟩)
      exact (inDirectory_eq_error_iff readable.temporary identifier).mpr ⟨rfl, second⟩

/-! ## What is told of a name -/

theorem result_knows {resolver : Resolver} :
    (resolver.knows disk name).result =
      (resolver.tryResolve disk name).result.map Option.isSome := by
  unfold Resolver.knows
  rw [Logged.result_bind]
  cases (resolver.tryResolve disk name).result with
  | error e => rfl
  | ok found => rfl

theorem result_resolve {resolver : Resolver} :
    (resolver.resolve disk name).result =
      (resolver.tryResolve disk name).result >>= fun found =>
        match found with
        | some descriptor => .ok descriptor
        | none => .error (.unknownAgent name .unplaced) := by
  unfold Resolver.resolve
  rw [Logged.result_bind]
  rcases (resolver.tryResolve disk name).result with e | _ | descriptor
  · rfl
  · rfl
  · rfl

/-- What the three questions tell of a name: whether it is known, and by which agent. -/
inductive Tells (resolver : Resolver) (disk : Disk) (name : String) : Prop where
  | known {descriptor : Descriptor} :
      (resolver.tryResolve disk name).result = .ok (some descriptor) →
      (resolver.knows disk name).result = .ok true →
      (resolver.resolve disk name).result = .ok descriptor → Tells resolver disk name
  | unknown :
      (resolver.tryResolve disk name).result = .ok none →
      (resolver.knows disk name).result = .ok false →
      (resolver.resolve disk name).result = .error (.unknownAgent name .unplaced) →
      Tells resolver disk name

/-- What all three questions end with for a name that is refused. -/
structure Fails (resolver : Resolver) (disk : Disk) (name : String) (error : Error) : Prop where
  tryResolve : (resolver.tryResolve disk name).result = .error error
  knows : (resolver.knows disk name).result = .error error
  resolve : (resolver.resolve disk name).result = .error error

theorem tells_of_answer {resolver : Resolver} {found : Option Descriptor}
    (answered : (resolver.tryResolve disk name).result = .ok found) :
    Tells resolver disk name := by
  cases found with
  | none =>
      apply Tells.unknown answered
      · simp [result_knows, answered, Except.map]
      · simp [result_resolve, answered, bind, Except.bind]
  | some descriptor =>
      apply Tells.known answered
      · simp [result_knows, answered, Except.map]
      · simp [result_resolve, answered, bind, Except.bind]

theorem fails_of_error {resolver : Resolver}
    (failed : (resolver.tryResolve disk name).result = .error error) :
    Fails resolver disk name error := by
  constructor
  · exact failed
  · simp [result_knows, failed, Except.map]
  · simp [result_resolve, failed, bind, Except.bind]

/-- Every name is told of unless it is refused. -/
theorem tells_or_refuses (readable : store.Readable disk) (name : String) :
    (Tells (.ofStore store builtins) disk name ∧ ¬store.Refuses builtins disk name) ∨
      (Fails (.ofStore store builtins) disk name (.unexpected (.file .nameTooLong)) ∧
        store.Refuses builtins disk name) := by
  cases asked : (store.resolves builtins disk name).result with
  | ok found =>
      refine .inl ⟨tells_of_answer asked, fun refuses => ?_⟩
      have failed := (resolves_eq_error_iff readable).mpr ⟨rfl, refuses⟩
      cases asked.symm.trans failed
  | error e =>
      obtain ⟨rfl, refuses⟩ := (resolves_eq_error_iff readable).mp asked
      exact .inr ⟨fails_of_error asked, refuses⟩

end Store

end AgentFlow
