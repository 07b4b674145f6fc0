import AgentFlow.Proofs.Agent.Addition
import AgentFlow.Proofs.Agent.Deeds
import AgentFlow.Proofs.Agent.Guards

/-!
# The temporary agents as every operation sees them

The list of the temporary agents shows the files in their directory whose names end like those of
definitions.  Resolving, deleting and promoting start from a name: it must be one that an agent can
have, and then its file is asked for.  The list does not look at the names that it shows.  So all
operations agree on the names that agents can have, and on no other name: a file with such a name
is listed, and nothing can be done with it.
-/

namespace AgentFlow

open AgentFlow.Text

/-! ## Names of definition files -/

theorem Path.stemOf_definition (base : String) :
    Path.stemOf (base ++ definitionSuffix) = if base = "" then definitionSuffix else base := by
  have backwards : (base ++ definitionSuffix).toList.reverse = 'd' :: 'm' :: '.' ::
      base.toList.reverse := by
    simp [definitionSuffix, String.toList_append]
  unfold Path.stemOf
  simp only [backwards]
  by_cases empty : base = ""
  · simp [empty, definitionSuffix]
  · have named : base.toList ≠ [] := by simpa using empty
    simp [empty, named]

namespace Store

variable {store : Store} {disk : Disk} {name file target : String} {names files : List String}
  {directory : Path} {builtins : List Value} {today : Date} {machine : Machine} {error : Error}

theorem isDefinitionName_iff :
    isDefinitionName file = true ↔ ∃ base, file = base ++ definitionSuffix := by
  unfold isDefinitionName
  rw [List.isSuffixOf_iff_suffix]
  constructor
  · rintro ⟨base, spelled⟩
    refine ⟨String.ofList base, ?_⟩
    rw [← String.toList_inj, String.toList_append, String.toList_ofList, spelled]
  · rintro ⟨base, rfl⟩
    rw [String.toList_append]
    exact List.suffix_append _ _

/-- The file of an agent is told by the name of the agent. -/
theorem eq_of_stem_identifier (definition : isDefinitionName file = true)
    (identifier : isIdentifier (Path.stemOf file) = true) :
    file = Path.stemOf file ++ definitionSuffix := by
  obtain ⟨base, rfl⟩ := isDefinitionName_iff.mp definition
  rw [Path.stemOf_definition] at identifier ⊢
  split
  · rename_i empty
    rw [if_pos empty] at identifier
    exact absurd identifier (by decide)
  · rfl

theorem stemOf_of_identifier (identifier : isIdentifier name = true) :
    Path.stemOf (name ++ definitionSuffix) = name := by
  rw [Path.stemOf_definition, if_neg]
  rintro rfl
  exact absurd identifier (by decide)

/-! ## The list -/

theorem mem_of_filesAmong (among : filesAmong disk directory names = .ok files) :
    file ∈ files ↔ file ∈ names ∧ disk.isFile (directory.child file) = .ok true := by
  induction names generalizing files with
  | nil =>
      cases among
      simp
  | cons first names induction =>
      obtain ⟨found, asked, among⟩ := bind_eq_ok_iff.mp among
      obtain ⟨others, rest, among⟩ := bind_eq_ok_iff.mp among
      cases among
      have known := asks_eq_ok_iff.mp asked
      have inRest := induction rest
      by_cases here : file = first
      · subst here
        cases found <;> simp [known, inRest]
      · cases found <;> simp [here, inRest]

theorem filesAmong_eq_error_iff : filesAmong disk directory names = .error error ↔
    error = .unexpected (.file .nameTooLong) ∧
      ∃ file ∈ names, disk.isFile (directory.child file) = .error .nameTooLong := by
  induction names with
  | nil => simp [filesAmong]
  | cons first names induction =>
      have next {found : Bool} : (filesAmong disk directory names >>= fun files =>
          pure (if found = true then first :: files else files)) = .error error ↔
            filesAmong disk directory names = .error error := by
        rw [bind_eq_error_iff]
        exact or_iff_left nofun
      rw [List.exists_mem_cons_iff, and_or_left, ← asks_isFile_eq_error_iff, ← induction]
      show asks (disk.isFile (directory.child first)) >>= _ = _ ↔ _
      cases asked : asks (disk.isFile (directory.child first)) with
      | ok found => exact next.trans (or_iff_right nofun).symm
      | error cause =>
          obtain ⟨rfl, _⟩ := asks_isFile_eq_error_iff.mp asked
          constructor
          · rintro ⟨⟩
            exact .inl rfl
          · rintro (failed | failed)
            · cases failed
              rfl
            · rw [(induction.mp failed).1]
              rfl

/-- A file in the directory of the temporary agents whose name ends like that of a definition. -/
structure HoldsFile (store : Store) (disk : Disk) (file : String) : Prop where
  directory : disk.isDirectory store.temporaryDir = .ok true
  entry : file ∈ disk.namesIn (disk.destination store.temporaryDir)
  definition : isDefinitionName file = true

theorem listTemporary_of_directory (isThere : disk.isDirectory store.temporaryDir = .ok true) :
    store.listTemporary disk =
      filesAmong disk store.temporaryDir
          ((disk.namesIn (disk.destination store.temporaryDir)).filter isDefinitionName) >>=
        fun files => .ok ((files.map Path.stemOf).mergeSort (· ≤ ·)) := by
  obtain ⟨reaches, _⟩ := Disk.isDirectory_eq_true_iff.mp isThere
  have located := Disk.locate_eq_ok_iff.mpr ⟨reaches.short, reaches.passable, rfl⟩
  unfold listTemporary
  simp only [isThere, located]
  rfl

/-- What is listed: the names of all those files. -/
theorem mem_listTemporary (listed : store.listTemporary disk = .ok names) :
    name ∈ names ↔ ∃ file, store.HoldsFile disk file ∧
      disk.isFile (store.temporaryDir.child file) = .ok true ∧ Path.stemOf file = name := by
  by_cases isThere : disk.isDirectory store.temporaryDir = .ok true
  · rw [listTemporary_of_directory isThere] at listed
    obtain ⟨files, among, listed⟩ := bind_eq_ok_iff.mp listed
    cases listed
    simp only [List.mem_mergeSort, List.mem_map, mem_of_filesAmong among, List.mem_filter]
    constructor
    · rintro ⟨file, ⟨⟨entry, definition⟩, isFile⟩, stem⟩
      exact ⟨file, ⟨isThere, entry, definition⟩, isFile, stem⟩
    · rintro ⟨file, ⟨_, entry, definition⟩, isFile, stem⟩
      exact ⟨file, ⟨⟨entry, definition⟩, isFile⟩, stem⟩
  · have none : names = [] := by
      unfold listTemporary at listed
      obtain ⟨found, asked, listed⟩ := bind_eq_ok_iff.mp listed
      cases found with
      | true => exact absurd (asks_eq_ok_iff.mp asked) isThere
      | false =>
          cases listed
          rfl
    subst none
    refine iff_of_false nofun ?_
    rintro ⟨_, holds, _⟩
    exact isThere holds.directory

/-- The agents are listed unless a path is too long. -/
theorem listTemporary_eq_error_iff : store.listTemporary disk = .error error ↔
    error = .unexpected (.file .nameTooLong) ∧
      (disk.isDirectory store.temporaryDir = .error .nameTooLong ∨ ∃ file, store.HoldsFile disk file ∧
        disk.isFile (store.temporaryDir.child file) = .error .nameTooLong) := by
  cases asked : disk.isDirectory store.temporaryDir with
  | error fault =>
      obtain ⟨rfl, _⟩ := Disk.ask_eq_error_iff.mp asked
      unfold listTemporary
      simp only [asked]
      constructor
      · rintro ⟨⟩
        exact ⟨rfl, .inl trivial⟩
      · rintro ⟨rfl, _⟩
        rfl
  | ok isThere =>
      cases isThere with
      | false =>
          refine iff_of_false ?_ ?_
          · unfold listTemporary
            simp only [asked]
            nofun
          · rintro ⟨_, failed | ⟨_, holds, _⟩⟩
            · cases failed
            · cases asked.symm.trans holds.directory
      | true =>
          rw [listTemporary_of_directory asked, bind_eq_error_iff, or_iff_left nofun,
            filesAmong_eq_error_iff]
          simp only [List.mem_filter]
          constructor
          · rintro ⟨rfl, file, ⟨entry, definition⟩, failed⟩
            exact ⟨rfl, .inr ⟨file, ⟨asked, entry, definition⟩, failed⟩⟩
          · rintro ⟨rfl, failed | ⟨file, ⟨_, entry, definition⟩, failed⟩⟩
            · cases failed
            · exact ⟨rfl, file, ⟨entry, definition⟩, failed⟩

/-! ## The names that agents can have -/

theorem hasTemporary_eq_true_iff : store.hasTemporary disk name = .ok true ↔
    isIdentifier name = true ∧ disk.isFile (store.temporaryPath name) = .ok true := by
  constructor
  · exact hasTemporary_eq_true
  · rintro ⟨identifier, isFile⟩
    unfold hasTemporary
    rw [if_pos identifier, isFile]
    rfl

/-- A temporary agent that is there has its file in the directory. -/
theorem holdsFile_of_hasTemporary (found : store.hasTemporary disk name = .ok true) :
    store.HoldsFile disk (name ++ definitionSuffix) := by
  obtain ⟨identifier, isFile⟩ := hasTemporary_eq_true found
  obtain ⟨reaches, directory⟩ := lends_of_isFile identifier isFile
  obtain ⟨_, content, file⟩ := Disk.isFile_eq_true_iff.mp isFile
  constructor
  · exact Disk.isDirectory_eq_true_iff.mpr ⟨reaches, directory⟩
  · rw [temporaryPath, definitionPath_eq identifier, Disk.destination, List.foldl_concat,
      Disk.step, if_neg (definition_ne_dots name)] at file
    exact Disk.mem_namesIn (Option.ne_none_iff_exists'.mpr ⟨_, file⟩)
  · exact isDefinitionName_iff.mpr ⟨name, rfl⟩

/-- The list and the question for one agent agree on every name that an agent can have. -/
theorem mem_listTemporary_iff_hasTemporary (listed : store.listTemporary disk = .ok names) :
    name ∈ names ∧ isIdentifier name = true ↔ store.hasTemporary disk name = .ok true := by
  rw [mem_listTemporary listed]
  constructor
  · rintro ⟨⟨file, holds, isFile, rfl⟩, identifier⟩
    refine hasTemporary_eq_true_iff.mpr ⟨identifier, ?_⟩
    rw [eq_of_stem_identifier holds.definition identifier] at isFile
    exact isFile
  · intro found
    obtain ⟨identifier, isFile⟩ := hasTemporary_eq_true found
    exact ⟨⟨_, holdsFile_of_hasTemporary found, isFile, stemOf_of_identifier identifier⟩, identifier⟩

/-! ## Resolving, deleting and promoting -/

/-- The tier of the temporary agents claims a name, behind the check of the name. -/
def ClaimsTemporary (store : Store) (disk : Disk) (name : String) : Prop :=
  ∃ descriptor,
    (Resolver.tryResolve [.temporary store.temporaryDir] disk name).result = .ok (some descriptor)

/-- How a promotion ends that does not get past the question for its agent. -/
inductive TurnsAway (store : Store) (name : String) (machine : Machine) :
    Except (Halt Error) Bool × Machine → Prop where
  | absent : TurnsAway store name machine (.ok false,
      { machine with
        records := machine.records ++ [⟨.warning, logger, "Temp agent not found: " ++ name⟩] })
  | unasked {fault : FileFault} : machine.disk.isFile (store.temporaryPath name) = .error fault →
      TurnsAway store name machine (.error (.failed (.unexpected (.file fault))), machine)

theorem claimsTemporary_iff :
    store.ClaimsTemporary disk name ↔ store.hasTemporary disk name = .ok true := by
  unfold ClaimsTemporary
  rw [result_tryResolve, firstClaim_singleton, hasTemporary_eq_true_iff]
  by_cases identifier : isIdentifier name = true
  · rw [if_pos identifier, and_iff_right identifier, ← asks_eq_ok_iff]
    show (∃ descriptor, asks (disk.isFile (store.temporaryPath name)) >>= _ = _) ↔ _
    rcases asks (disk.isFile (store.temporaryPath name)) with e | _ | _
    · exact iff_of_false nofun nofun
    · exact iff_of_false nofun nofun
    · exact iff_of_true ⟨_, rfl⟩ rfl
  · rw [if_neg identifier]
    exact iff_of_false nofun fun found => identifier found.1

theorem deleteTemporary_eq_true_iff (noMishaps : machine.mishaps = []) :
    (store.deleteTemporary name machine).1 = .ok true ↔
      store.hasTemporary machine.disk name = .ok true := by
  constructor
  · intro deleted
    cases asked : store.hasTemporary machine.disk name with
    | error e =>
        unfold deleteTemporary at deleted
        rw [Work.ask_bind_of_error asked] at deleted
        cases deleted
    | ok found =>
        cases found with
        | true => rfl
        | false =>
            unfold deleteTemporary at deleted
            rw [Work.ask_bind_of_ok asked] at deleted
            cases deleted
  · intro found
    obtain ⟨done, last, ended, _, isDone, _⟩ :=
      completes_deleteTemporary found machine rfl noMishaps
    rw [ended, isDone]

theorem promotedName_some (identifier : isIdentifier target = true) :
    promotedName name (some target) = target := by
  have named : target.isEmpty = false := by
    rw [String.isEmpty_eq_false_iff]
    rintro rfl
    exact absurd identifier (by decide)
  simp [promotedName, Option.filter, named]

/-- A promotion whose agent is there is not given up for want of it. -/
theorem intend_ne_notFound {newName : Option String}
    (found : store.hasTemporary disk name = .ok true) :
    store.intend today name newName disk ≠
      .ok (.error ⟨.warning, logger, "Temp agent not found: " ++ name⟩) := by
  intro decided
  have decides := store.decides_intend today name newName disk
  generalize answered : store.intend today name newName disk = answer at decides
  cases decides with
  | absent notFound => cases found.symm.trans notFound
  | taken =>
      have same := Except.error.inj (Except.ok.inj (answered.symm.trans decided))
      have heads := congrArg (fun record => record.message.toList.head?) same
      simp at heads
  | _ => cases answered.symm.trans decided

/-- A promotion gets past the question for its agent just when the agent is there. -/
theorem turnsAway_promote_iff (identifier : isIdentifier target = true) :
    store.TurnsAway name machine (store.promote today name (some target) machine) ↔
      store.hasTemporary machine.disk name ≠ .ok true := by
  have targetIdentifier : isIdentifier (promotedName name (some target)) = true := by
    rwa [promotedName_some identifier]
  constructor
  · intro turnsAway found
    obtain ⟨_, isFile⟩ := hasTemporary_eq_true found
    generalize ended : store.promote today name (some target) machine = outcome at turnsAway
    cases turnsAway with
    | unasked failed => cases isFile.symm.trans failed
    | absent =>
        cases decided : store.intend today name (some target) machine.disk with
        | error e => cases (promote_of_error decided).symm.trans ended
        | ok decision =>
            cases decision with
            | ok promotion =>
                rw [promote_of_promotion decided] at ended
                exact commit_ne_false _ _ _ _ (congrArg Prod.fst ended)
            | error record =>
                have told := (promote_of_record decided).symm.trans ended
                have same : record = ⟨.warning, logger, "Temp agent not found: " ++ name⟩ := by
                  simpa using congrArg (fun outcome => outcome.2.records) told
                exact intend_ne_notFound found (same ▸ decided)
  · intro notFound
    by_cases nameIdentifier : isIdentifier name = true
    · rcases @asks_isFile_cases machine.disk (store.temporaryPath name) with yes | no | tooLong
      · exact absurd (hasTemporary_eq_true_iff.mpr ⟨nameIdentifier, asks_eq_ok_iff.mp yes⟩) notFound
      · have absent := hasTemporary_of_absent (.inr (asks_eq_ok_iff.mp no))
        rw [promote_of_record (intend_of_notFound targetIdentifier absent)]
        exact .absent
      · have failed := (asks_isFile_eq_error_iff.mp tooLong).2
        rw [promote_of_error (intend_of_unasked targetIdentifier nameIdentifier failed)]
        exact .unasked failed
    · have absent : store.hasTemporary machine.disk name = .ok false :=
        hasTemporary_of_absent (.inl (Bool.not_eq_true _ ▸ nameIdentifier))
      rw [promote_of_record (intend_of_notFound targetIdentifier absent)]
      exact .absent

/-! ## The views of the tier -/

/-- Every operation that starts from a name says in its own way whether it is that of a temporary
agent. -/
structure Agrees (store : Store) (disk : Disk) (name : String) (isAgent : Prop) : Prop where
  claimed : store.ClaimsTemporary disk name ↔ isAgent
  resolved : ∀ builtins, isBuiltin builtins name = false →
    disk.isFile (store.definedPath name) = .ok false →
    ((store.resolves builtins disk name).result =
      .ok (some ⟨name, .temporary, some (store.temporaryPath name)⟩) ↔ isAgent)
  deleted : ∀ machine : Machine, machine.disk = disk → machine.mishaps = [] →
    ((store.deleteTemporary name machine).1 = .ok true ↔ isAgent)
  promoted : ∀ (machine : Machine) today target, machine.disk = disk →
    isIdentifier target = true →
    (¬store.TurnsAway name machine (store.promote today name (some target) machine) ↔ isAgent)

theorem agrees_hasTemporary : store.Agrees disk name (store.hasTemporary disk name = .ok true) where
  claimed := claimsTemporary_iff
  resolved := by
    intro builtins notBuiltin notDefined
    rw [resolves_eq_some_iff, hasTemporary_eq_true_iff]
    constructor
    · intro both
      obtain ⟨identifier, claims⟩ := both
      cases claims with
      | temporary _ _ isFile => exact ⟨identifier, isFile⟩
    · intro both
      obtain ⟨identifier, isFile⟩ := both
      exact ⟨identifier, .temporary notBuiltin notDefined isFile⟩
  deleted := by
    intro machine same noMishaps
    rw [← same]
    exact deleteTemporary_eq_true_iff noMishaps
  promoted := by
    intro machine today target same identifier
    rw [← same, turnsAway_promote_iff identifier, not_not]

/-- A name that is listed is that of a file.  Every operation takes the listed names that agents
can have for those of temporary agents, and no other name.  The list is made unless a path is too
long. -/
theorem temporary_views (store : Store) (disk : Disk) :
    (∀ names, store.listTemporary disk = .ok names → ∀ name,
      store.Agrees disk name (name ∈ names ∧ isIdentifier name = true) ∧
      (name ∈ names ↔ ∃ file, store.HoldsFile disk file ∧
        disk.isFile (store.temporaryDir.child file) = .ok true ∧ Path.stemOf file = name)) ∧
    ∀ error, store.listTemporary disk = .error error ↔
      error = .unexpected (.file .nameTooLong) ∧
        (disk.isDirectory store.temporaryDir = .error .nameTooLong ∨
          ∃ file, store.HoldsFile disk file ∧
            disk.isFile (store.temporaryDir.child file) = .error .nameTooLong) := by
  constructor
  · intro names listed name
    refine ⟨?_, mem_listTemporary listed⟩
    rw [propext (mem_listTemporary_iff_hasTemporary listed)]
    exact agrees_hasTemporary
  · intro error
    exact listTemporary_eq_error_iff

/-- The agent of the only file can be deleted, and promoted under a new name. -/
theorem temporary_views_sole : plainStore.listTemporary soleDisk = .ok ["a"] ∧
    (plainStore.deleteTemporary "a" (.ofDisk soleDisk)).1 = .ok true ∧
    ¬plainStore.TurnsAway "a" (.ofDisk soleDisk)
      (plainStore.promote someDay "a" (some "b") (.ofDisk soleDisk)) := by
  have listed : plainStore.listTemporary soleDisk = .ok ["a"] := by
    show Except.ok (["a"].mergeSort fun first second => first ≤ second) = _
    rw [List.mergeSort_singleton]
  have agrees := ((temporary_views plainStore soleDisk).1 ["a"] listed "a").1
  have isAgent : "a" ∈ ["a"] ∧ isIdentifier "a" = true := by decide
  refine ⟨listed, ?_, ?_⟩
  · exact (agrees.deleted _ rfl rfl).mpr isAgent
  · exact (agrees.promoted _ someDay "b" rfl (by decide)).mpr isAgent

/-- A file of a temporary agent whose name no agent can have. -/
def spacedDisk : Disk := temporaryDisk [(["temp", "my agent.md"], .file (.text "A"))]

/-- It is listed, but it cannot be resolved, deleted or promoted. -/
theorem listed_not_found : plainStore.listTemporary spacedDisk = .ok ["my agent"] ∧
    (plainStore.resolves [] spacedDisk "my agent").result = .ok none ∧
    (plainStore.deleteTemporary "my agent" (.ofDisk spacedDisk)).1 = .ok false ∧
    plainStore.TurnsAway "my agent" (.ofDisk spacedDisk)
      (plainStore.promote someDay "my agent" (some "b") (.ofDisk spacedDisk)) := by
  refine ⟨?_, rfl, rfl, .absent⟩
  show Except.ok (["my agent"].mergeSort fun first second => first ≤ second) = _
  rw [List.mergeSort_singleton]

end Store

end AgentFlow
