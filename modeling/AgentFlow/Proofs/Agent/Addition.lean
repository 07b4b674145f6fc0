import AgentFlow.Proofs.Agent.Resolution

/-!
# Files that are added to a tier

A directory receives new files, and nothing that was there is lost.  A name that is claimed
stays claimed by the same tier when the directory is that of the temporary agents, whatever
files they are.  When it is that of the defined agents, the name of the one new definition is
the only one that can change its tier, and only from the temporary one to the defined one.
-/

namespace AgentFlow

open AgentFlow.Text

namespace Disk

variable {disk later : Disk} {directory path : Path} {names : String → Prop}

/-- A directory has received files under some names.  All that was there stays, and nothing
else is new but directories on the way. -/
structure Receives (directory : Path) (names : String → Prop) (disk later : Disk) : Prop where
  current : later.current = disk.current
  kept : ∀ location node, disk.node? location = some node → later.node? location = some node
  added : ∀ location node, disk.node? location = none → later.node? location = some node →
    (node = .directory ∧ disk.OnWay directory location) ∨
      ∃ name content, names name ∧ location = disk.destination directory ++ [name] ∧
        node = .file content

/-- A place at which a file is new. -/
def IsReceived (directory : Path) (names : String → Prop) (disk : Disk) (location : Location) :
    Prop :=
  disk.node? location = none ∧
    ∃ name, names name ∧ location = disk.destination directory ++ [name]

namespace Receives

theorem keeps (receives : disk.Receives directory names later) : disk.Keeps later where
  current := receives.current
  directory := fun location => receives.kept location .directory

theorem leaves (receives : disk.Receives directory names later) :
    Leaves (disk.IsReceived directory names) disk later where
  keeps := receives.keeps
  file := by
    intro location content untouched
    constructor
    · intro file
      cases before : disk.node? location with
      | some node =>
          have still := receives.kept location node before
          exact still.symm.trans file
      | none =>
          rcases receives.added location _ before file with ⟨directory, _⟩ | ⟨name, _, isOne, here, _⟩
          · cases directory
          · exact absurd ⟨before, name, isOne, here⟩ untouched
    · exact receives.kept location (.file content)

/-- No directory is made on a way that is paved. -/
theorem noneMade (receives : disk.Receives directory names later)
    (paved : ∀ location, disk.OnWay directory location → disk.node? location = some .directory) :
    Layout.NoneMade disk later := by
  intro location made
  cases before : disk.node? location with
  | some node =>
      have still := receives.kept location node before
      exact still.symm.trans made
  | none =>
      rcases receives.added location _ before made with ⟨_, onWay⟩ | ⟨_, _, _, _, file⟩
      · exact before.symm.trans (paved location onWay)
      · cases file

theorem isFile (receives : disk.Receives directory names later)
    (found : disk.isFile path = .ok true) : later.isFile path = .ok true := by
  obtain ⟨reaches, content, file⟩ := isFile_eq_true_iff.mp found
  apply isFile_eq_true_iff.mpr
  rw [destination_of_current receives.current]
  exact ⟨receives.keeps.reaches reaches, content, receives.kept _ _ file⟩

end Receives

/-- One file is put into a directory. -/
theorem receives_put {name : String} (isOne : names name) {location : Location}
    (here : location = disk.destination directory ++ [name])
    (free : disk.node? location = none) (content : Content) :
    disk.Receives directory names (disk.put location (.file content)) where
  current := rfl
  kept := by
    intro other node found
    rw [node?_put (ne_root_of_node? (noDirectory_of_none free)), if_neg]
    · exact found
    · rintro rfl
      exact Option.some_ne_none node (found.symm.trans free)
  added := by
    intro other node before after
    rw [node?_put (ne_root_of_node? (noDirectory_of_none free))] at after
    split at after
    · rename_i same
      cases after
      exact .inr ⟨name, content, isOne, same.trans here, rfl⟩
    · exact absurd (before.symm.trans after) (Option.some_ne_none node).symm

theorem Reaches.paved_of_directory (reaches : disk.Reaches path)
    (there : disk.node? (disk.destination path) = some .directory) {location : Location}
    (onWay : disk.OnWay path location) : disk.node? location = some .directory := by
  obtain ⟨passed, ⟨rest, parts⟩, rfl⟩ := onWay
  by_cases goesOn : rest = []
  · subst goesOn
    rw [List.append_nil] at parts
    rw [parts]
    exact there
  · exact reaches.paved parts.symm goesOn

theorem Reaches.paved_of_definition {name : String}
    (reaches : disk.Reaches (directory.definitionFile name)) {location : Location}
    (onWay : disk.OnWay directory location) : disk.node? location = some .directory := by
  have parent := reaches.parent (by simp [Path.definitionFile])
  rw [Path.parent_definitionFile] at parent
  exact parent.1.paved_of_directory parent.2 onWay

end Disk

namespace Store

variable {store : Store} {builtins : List Value} {disk later : Disk} {name : String}
  {descriptor : Descriptor}

/-! ## Claims -/

/-- The first tier that claims a name, and what it tells. -/
inductive Claims (store : Store) (builtins : List Value) (disk : Disk) (name : String) :
    Descriptor → Prop where
  | builtin : isBuiltin builtins name = true → Claims store builtins disk name ⟨name, .builtin, none⟩
  | defined : isBuiltin builtins name = false → disk.isFile (store.definedPath name) = .ok true →
      Claims store builtins disk name ⟨name, .defined, some (store.definedPath name)⟩
  | temporary : isBuiltin builtins name = false →
      disk.isFile (store.definedPath name) = .ok false →
      disk.isFile (store.temporaryPath name) = .ok true →
      Claims store builtins disk name ⟨name, .temporary, some (store.temporaryPath name)⟩

theorem inDirectory_eq_ok_iff {source : Source} {directory : Path} {claimed : Option Descriptor} :
    Tier.inDirectory disk source directory name = .ok claimed ↔
      ∃ found, disk.isFile (definitionPath directory name) = .ok found ∧
        claimed = if found = true then some ⟨name, source, some (definitionPath directory name)⟩
          else none := by
  constructor
  · intro told
    obtain ⟨found, asked, _⟩ := bind_eq_ok_iff.mp told
    have asked := asks_eq_ok_iff.mp asked
    rw [inDirectory_of_isFile asked] at told
    exact ⟨found, asked, (Except.ok.inj told).symm⟩
  · intro told
    obtain ⟨found, asked, rfl⟩ := told
    exact inDirectory_of_isFile asked

theorem result_tryResolve (resolver : Resolver) (disk : Disk) (name : String) :
    (resolver.tryResolve disk name).result =
      if isIdentifier name = true then resolver.firstClaim disk name else .ok none := by
  unfold Resolver.tryResolve
  split
  · rw [Logged.result_bind, Logged.result_ofExcept]
    cases resolver.firstClaim disk name with
    | error e => rfl
    | ok claimed => cases claimed <;> rfl
  · rfl

theorem claims_of_firstClaim
    (claimed : (Resolver.ofStore store builtins).firstClaim disk name = .ok (some descriptor)) :
    store.Claims builtins disk name descriptor := by
  rw [firstClaim_eq] at claimed
  cases builtin : isBuiltin builtins name with
  | true =>
      rw [if_pos builtin] at claimed
      cases claimed
      exact .builtin builtin
  | false =>
      rw [if_neg (by simp [builtin])] at claimed
      obtain ⟨first, told, claimed⟩ := bind_eq_ok_iff.mp claimed
      obtain ⟨isDefined, askedDefined, rfl⟩ := inDirectory_eq_ok_iff.mp told
      cases isDefined with
      | true =>
          cases claimed
          exact .defined builtin askedDefined
      | false =>
          obtain ⟨isTemporary, askedTemporary, same⟩ := inDirectory_eq_ok_iff.mp claimed
          cases isTemporary with
          | true =>
              cases same
              exact .temporary builtin askedDefined askedTemporary
          | false => cases same

/-- A name resolves to what its first claim tells. -/
theorem resolves_eq_some_iff :
    (store.resolves builtins disk name).result = .ok (some descriptor) ↔
      isIdentifier name = true ∧ store.Claims builtins disk name descriptor := by
  constructor
  · intro resolved
    rw [resolves, result_tryResolve] at resolved
    split at resolved
    · rename_i identifier
      exact ⟨identifier, claims_of_firstClaim resolved⟩
    · cases resolved
  · intro both
    obtain ⟨identifier, claims⟩ := both
    cases claims with
    | builtin isBuiltin => exact resolves_builtin identifier isBuiltin
    | defined notBuiltin found => exact resolves_defined identifier notBuiltin found
    | temporary notBuiltin missing found =>
        exact resolves_temporary identifier notBuiltin (inDirectory_of_isFile missing) found

/-! ## Files of temporary agents -/

/-- Files have been added to the temporary tier. -/
def AddsTemporary (store : Store) (disk later : Disk) : Prop :=
  disk.Receives store.temporaryDir (fun _ => True) later

/-- A name is claimed by the same tier whatever is added to the last one. -/
theorem AddsTemporary.claims (adds : store.AddsTemporary disk later)
    (identifier : isIdentifier name = true) (claims : store.Claims builtins disk name descriptor) :
    store.Claims builtins later name descriptor := by
  cases claims with
  | builtin builtin => exact .builtin builtin
  | defined notBuiltin found => exact .defined notBuiltin (Disk.Receives.isFile adds found)
  | temporary notBuiltin missing found =>
      refine .temporary notBuiltin ?_ (Disk.Receives.isFile adds found)
      rw [← missing]
      obtain ⟨reaches, content, file⟩ := Disk.isFile_eq_true_iff.mp found
      rw [temporaryPath, definitionPath_eq_definitionFile identifier] at reaches file
      have noneMade := adds.noneMade fun _ => reaches.paved_of_definition
      apply adds.leaves.isFile_of_noneMade noneMade
      -- What is new has another name than the definition, which was there before.
      intro received
      obtain ⟨free, other, _, here⟩ := received
      rw [definedPath, definitionPath_eq_definitionFile identifier,
        Disk.destination_definitionFile] at free here
      obtain ⟨sameDirectory, sameName⟩ := List.append_inj' here rfl
      rw [Disk.destination_definitionFile, ← sameDirectory, free] at file
      cases file

/-! ## A definition of a defined agent -/

/-- One definition has been added to the defined tier: its file is new, and no other
definition is found there that was not found before. -/
structure AddsDefined (store : Store) (added : String) (disk later : Disk) : Prop where
  receives : disk.Receives store.agentsDir (· = added ++ definitionSuffix) later
  arrived : later.isFile (store.agentsDir.definitionFile added) = .ok true
  alone : ∀ other, other ≠ added →
    later.isFile (store.agentsDir.definitionFile other) = .ok true →
      disk.isFile (store.agentsDir.definitionFile other) = .ok true

/-- What a claim becomes: the new definition goes before a temporary agent of its name, unless
a built-in agent has it. -/
def overridden (store : Store) (builtins : List Value) (added name : String)
    (descriptor : Descriptor) : Descriptor :=
  if name = added ∧ descriptor.source = .temporary ∧ isBuiltin builtins added = false then
    ⟨added, .defined, some (store.definedPath added)⟩
  else descriptor

theorem overridden_of_not_temporary {added : String} (notTemporary : descriptor.source ≠ .temporary) :
    store.overridden builtins added name descriptor = descriptor :=
  if_neg fun both => notTemporary both.2.1

theorem overridden_of_ne {added : String} (differs : name ≠ added) :
    store.overridden builtins added name descriptor = descriptor :=
  if_neg fun both => differs both.1

namespace AddsDefined

variable {added : String}

/-- Where the directory is there already, no other definition is laid open. -/
theorem ofReceives (receives : disk.Receives store.agentsDir (· = added ++ definitionSuffix) later)
    (arrived : later.isFile (store.agentsDir.definitionFile added) = .ok true)
    (reaches : disk.Reaches store.agentsDir)
    (directory : disk.node? (disk.destination store.agentsDir) = some .directory) :
    store.AddsDefined added disk later where
  receives := receives
  arrived := arrived
  alone := by
    intro other differs found
    have noneMade := receives.noneMade fun _ => reaches.paved_of_directory directory
    rw [← found]
    symm
    apply receives.leaves.isFile_of_noneMade noneMade
    intro received
    obtain ⟨_, name, rfl, here⟩ := received
    rw [Disk.destination_definitionFile] at here
    obtain ⟨_, sameName⟩ := List.append_inj' here rfl
    exact differs (Disk.eq_of_definition_eq (List.singleton_inj.mp sameName))

/-- What is told about the other definitions among the defined agents is told as before, if
their names are short enough to be those of temporary agents. -/
theorem isFile_defined (adds : store.AddsDefined added disk later)
    (identifier : isIdentifier name = true) (differs : name ≠ added)
    (temporary : disk.isFile (store.temporaryPath name) = .ok true) :
    later.isFile (store.definedPath name) = disk.isFile (store.definedPath name) := by
  obtain ⟨reachesAdded, _⟩ := Disk.isFile_eq_true_iff.mp adds.arrived
  obtain ⟨reachesTemporary, _⟩ := Disk.isFile_eq_true_iff.mp temporary
  rw [temporaryPath, definitionPath_eq_definitionFile identifier] at reachesTemporary
  rw [definedPath, definitionPath_eq_definitionFile identifier]
  apply Disk.isFile_eq
  · exact ⟨adds.alone name differs, adds.receives.isFile⟩
  · apply Disk.find_nameTooLong_iff_of_short
    intro part member
    rcases List.mem_append.mp member with inDirectory | isLast
    · exact reachesAdded.fits.names part (List.mem_append_left _ inDirectory)
    · exact reachesTemporary.fits.names part (List.mem_append_right _ isLast)

theorem claims (adds : store.AddsDefined added disk later)
    (identifier : isIdentifier name = true) (claims : store.Claims builtins disk name descriptor) :
    store.Claims builtins later name (store.overridden builtins added name descriptor) := by
  cases claims with
  | builtin builtin =>
      rw [overridden_of_not_temporary (by simp)]
      exact .builtin builtin
  | defined notBuiltin found =>
      rw [overridden_of_not_temporary (by simp)]
      exact .defined notBuiltin (adds.receives.isFile found)
  | temporary notBuiltin missing found =>
      by_cases same : name = added
      · subst same
        rw [overridden, if_pos ⟨rfl, rfl, notBuiltin⟩]
        apply Claims.defined notBuiltin
        rw [definedPath, definitionPath_eq_definitionFile identifier]
        exact adds.arrived
      · rw [overridden_of_ne same]
        refine .temporary notBuiltin ?_ (adds.receives.isFile found)
        rw [adds.isFile_defined identifier same found, missing]

end AddsDefined

end Store

end AgentFlow
