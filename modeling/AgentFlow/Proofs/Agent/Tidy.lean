import AgentFlow.Proofs.Agent.Shadowing
import AgentFlow.Proofs.Files.Bounded

/-!
# Stores in which nothing is hidden

What stands at a place of a tidy store is reached by its path, and no directory of the store is
below one of its files.  Then directories that are made on the way do not change what the store
finds: every question that an operation asks has the answer it had before, as long as the file
in question is left alone.
-/

namespace AgentFlow

open AgentFlow.Text

namespace Disk

variable {ways touched : Location → Prop} {disk later last : Disk} {location : Location}
  {path : Path}

/-- Files are different at the places that are touched only, and directories are new on the ways
only. -/
structure Reshapes (ways touched : Location → Prop) (disk later : Disk) : Prop where
  leaves : Leaves touched disk later
  made : ∀ location, later.node? location = some .directory →
    disk.node? location = some .directory ∨ ways location

namespace Reshapes

theorem refl (disk : Disk) : Reshapes ways touched disk disk := ⟨.refl disk, fun _ => .inl⟩

theorem trans (first : Reshapes ways touched disk later)
    (second : Reshapes ways touched later last) : Reshapes ways touched disk last where
  leaves := first.leaves.trans second.leaves
  made := fun location directory =>
    (second.made location directory).elim (first.made location) .inr

theorem mono {wider : Location → Prop} (reshapes : Reshapes ways touched disk later)
    (widens : ∀ location, touched location → wider location) : Reshapes ways wider disk later :=
  ⟨reshapes.leaves.mono widens, reshapes.made⟩

theorem ofFurnished {narrower : Location → Prop} (furnished : Furnished narrower disk later)
    (onWays : ∀ location, narrower location → ways location) :
    Reshapes ways touched disk later where
  leaves := .ofFurnished furnished
  made := fun location directory => by
    rcases furnished.node location with same | ⟨_, _, onWay⟩
    · exact .inl (same ▸ directory)
    · exact .inr (onWays location onWay)

theorem ofAlters {node : Option Node} (alters : Alters location node disk later)
    (noDirectory : disk.node? location ≠ some .directory) (made : node ≠ some .directory)
    (isTouched : touched location) : Reshapes ways touched disk later where
  leaves := (Leaves.ofAlters alters noDirectory).mono fun _ here => here ▸ isTouched
  made := fun other directory => by
    rw [alters.node] at directory
    split at directory
    · exact absurd directory made
    · exact .inl directory

theorem node?_eq (reshapes : Reshapes ways touched disk later) (untouched : ¬touched location)
    (aside : ¬ways location) : later.node? location = disk.node? location := by
  cases before : disk.node? location with
  | some kind =>
      cases kind with
      | directory => exact reshapes.leaves.keeps.directory location before
      | file content => exact (reshapes.leaves.file location content untouched).mpr before
  | none =>
      cases after : later.node? location with
      | none => rfl
      | some kind =>
          cases kind with
          | directory =>
              have directory := (reshapes.made location after).resolve_right aside
              exact absurd (before.symm.trans directory) (Option.some_ne_none _).symm
          | file content =>
              have file := (reshapes.leaves.file location content untouched).mp after
              exact absurd (before.symm.trans file) (Option.some_ne_none _).symm

/-- Where no file is touched, a way stays clear, and a way that is clear was so before. -/
theorem clear_iff (reshapes : Reshapes ways touched disk later)
    (untouched : ∀ location, disk.OnWay path location → ¬touched location) :
    later.Clear path ↔ disk.Clear path := by
  have clear_iff (disk : Disk) : disk.Clear path ↔
      ∀ location content, disk.OnWay path location →
        disk.node? location ≠ some (.file content) := by
    constructor
    · intro clear location content onWay file
      rcases clear location onWay with free | directory
      · exact absurd (file.symm.trans free) nofun
      · exact absurd (file.symm.trans directory) nofun
    · intro noFile location onWay
      cases node : disk.node? location with
      | none => exact .inl rfl
      | some kind =>
          cases kind with
          | directory => exact .inr rfl
          | file content => exact absurd node (noFile location content onWay)
  rw [clear_iff, clear_iff, onWay_of_current reshapes.leaves.keeps.current]
  refine forall₂_congr fun location content => ?_
  constructor
  · exact fun noFile onWay file => noFile onWay
      ((reshapes.leaves.file location content (untouched location onWay)).mpr file)
  · exact fun noFile onWay file => noFile onWay
      ((reshapes.leaves.file location content (untouched location onWay)).mp file)

end Reshapes

end Disk

namespace Store

variable {store : Store} {disk later : Disk} {touched : Location → Prop} {name target : String}
  {table : Registry} {location : Location}

/-- Where the directories of the defined agents and of the registry are. -/
def OnWays (store : Store) (disk : Disk) (location : Location) : Prop :=
  disk.OnWay store.agentsDir location ∨ disk.OnWay store.registryPath.parent location

/-- A store whose registry and whose definitions are reached by their paths wherever they stand.
Neither the defined agents nor the registry are below one of these files, and no name on the way
to them is too long. -/
structure Tidy (store : Store) (disk : Disk) : Prop where
  distinct : store.Distinct disk
  named : Disk.isMovable store.registryPath = true
  names : ∀ part ∈ store.agentsDir.parts ++ store.registryPath.parts,
    part.utf8ByteSize ≤ Disk.maxNameLength
  registry : disk.node? (disk.destination store.registryPath) ≠ none →
    disk.Reaches store.registryPath
  defined : ∀ name, isIdentifier name = true →
    disk.node? (disk.destination (store.definedPath name)) ≠ none →
      disk.Reaches (store.definedPath name)
  below : ∀ location, store.OnWays disk location →
    location ≠ disk.destination store.registryPath ∧ store.Aside disk location

/-- Directories are new on the ways of the store only. -/
abbrev Reshapes (store : Store) (touched : Location → Prop) (disk later : Disk) : Prop :=
  Disk.Reshapes (store.OnWays disk) touched disk later

theorem onWays_of_current (sameCurrent : later.current = disk.current) :
    store.OnWays later = store.OnWays disk := by
  funext location
  simp only [OnWays, Disk.onWay_of_current sameCurrent]

namespace Tidy

theorem defined_aside (tidy : store.Tidy disk) (identifier : isIdentifier name = true) :
    ¬store.OnWays disk (disk.destination (store.definedPath name)) :=
  fun onWays => ((tidy.below _ onWays).2 name identifier).1 rfl

theorem temporary_aside (tidy : store.Tidy disk) (identifier : isIdentifier name = true) :
    ¬store.OnWays disk (disk.destination (store.temporaryPath name)) :=
  fun onWays => ((tidy.below _ onWays).2 name identifier).2 rfl

theorem registry_aside (tidy : store.Tidy disk) :
    ¬store.OnWays disk (disk.destination store.registryPath) :=
  fun onWays => (tidy.below _ onWays).1 rfl

/-- A store stays tidy if the files that are new are reached by their paths. -/
theorem reshaped (tidy : store.Tidy disk) (reshapes : store.Reshapes touched disk later)
    (registry : touched (disk.destination store.registryPath) →
      later.node? (disk.destination store.registryPath) ≠ none →
        later.Reaches store.registryPath)
    (defined : ∀ name, isIdentifier name = true →
      touched (disk.destination (store.definedPath name)) →
        later.node? (disk.destination (store.definedPath name)) ≠ none →
          later.Reaches (store.definedPath name)) : store.Tidy later := by
  have keeps := reshapes.leaves.keeps
  have sameCurrent := keeps.current
  refine ⟨distinct_of_current sameCurrent tidy.distinct, tidy.named, tidy.names, ?_, ?_, ?_⟩
  · rw [Disk.destination_of_current sameCurrent]
    intro taken
    by_cases isTouched : touched (disk.destination store.registryPath)
    · exact registry isTouched taken
    · rw [reshapes.node?_eq isTouched tidy.registry_aside] at taken
      exact keeps.reaches (tidy.registry taken)
  · intro name identifier taken
    rw [Disk.destination_of_current sameCurrent] at taken
    by_cases isTouched : touched (disk.destination (store.definedPath name))
    · exact defined name identifier isTouched taken
    · rw [reshapes.node?_eq isTouched (tidy.defined_aside identifier)] at taken
      exact keeps.reaches (tidy.defined name identifier taken)
  · rw [onWays_of_current sameCurrent, aside_of_current sameCurrent,
      Disk.destination_of_current sameCurrent]
    exact tidy.below

/-! ## What a tidy store asks -/

/-- A registry that is left alone is loaded as before. -/
theorem load_eq (tidy : store.Tidy disk) (reshapes : store.Reshapes touched disk later)
    (untouched : ¬touched (disk.destination store.registryPath)) :
    store.load later = store.load disk := by
  have keeps := reshapes.leaves.keeps
  have same := reshapes.node?_eq untouched tidy.registry_aside
  have short := (List.forall_mem_append.mp tidy.names).2
  have exists_ : later.pathExists store.registryPath = disk.pathExists store.registryPath :=
    keeps.pathExists_eq same tidy.registry (Disk.find_nameTooLong_iff_of_short short)
  unfold load Registry.read
  rw [exists_]
  cases asked : disk.pathExists store.registryPath with
  | error fault => rfl
  | ok isThere =>
      cases isThere with
      | false => rfl
      | true =>
          obtain ⟨reaches, _⟩ := Disk.pathExists_eq_true_iff.mp asked
          simp only [keeps.readText_eq reaches same]

/-- A definition is there as before.  A name that is too long is told as before as long as no
directory is new. -/
theorem pathExists_eq (tidy : store.Tidy disk) (reshapes : store.Reshapes touched disk later)
    (identifier : isIdentifier name = true)
    (untouched : ¬touched (disk.destination (store.definedPath name)))
    (told : IsShort name ∨ Layout.NoneMade disk later) :
    later.pathExists (store.definedPath name) = disk.pathExists (store.definedPath name) := by
  refine reshapes.leaves.keeps.pathExists_eq
    (reshapes.node?_eq untouched (tidy.defined_aside identifier)) (tidy.defined name identifier) ?_
  rcases told with short | noneMade
  · refine Disk.find_nameTooLong_iff_of_short ?_
    rw [definedPath, definitionPath_eq identifier, List.forall_mem_append,
      List.forall_mem_singleton]
    exact ⟨(List.forall_mem_append.mp tidy.names).1, short⟩
  · exact reshapes.leaves.keeps.find_nameTooLong_iff noneMade

/-- A definition is not there if nothing is found. -/
theorem defined_free (tidy : store.Tidy disk) (identifier : isIdentifier name = true)
    (free : disk.pathExists (store.definedPath name) = .ok false) :
    disk.node? (disk.destination (store.definedPath name)) = none := by
  by_contra taken
  have found := Disk.pathExists_eq_true_iff.mpr
    ⟨tidy.defined name identifier taken, Option.isSome_iff_ne_none.mpr taken⟩
  rw [found] at free
  cases free

end Tidy

theorem readText_eq (leaves : Disk.Leaves touched disk later)
    (found : disk.isFile (store.temporaryPath name) = .ok true)
    (untouched : ¬touched (disk.destination (store.temporaryPath name))) :
    later.readText (store.temporaryPath name) = disk.readText (store.temporaryPath name) := by
  obtain ⟨reaches, content, file⟩ := Disk.isFile_eq_true_iff.mp found
  refine leaves.keeps.readText_eq reaches ?_
  rw [file]
  exact (leaves.file _ content untouched).mpr file

end Store

end AgentFlow
