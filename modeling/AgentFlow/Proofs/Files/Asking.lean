import AgentFlow.Proofs.Files.Work

/-!
# What is asked about a path after a change

Whether a file stands at a path is told by its destination once the path can be followed.  A
change that leaves the destination alone may still pave the way to it, so the answer stays the
same for a path at whose destination no file waits unseen.  A name that is too long is told
when its directory is there, and from then on always.
-/

namespace AgentFlow

namespace Disk

variable {disk later last : Disk} {touched : Location → Prop} {location : Location}
  {path : Path} {answer : Node → Bool}

/-! ## Files that are left alone -/

/-- All files are as they were, but for the places that are touched. -/
structure Leaves (touched : Location → Prop) (disk later : Disk) : Prop where
  keeps : disk.Keeps later
  file : ∀ location content, ¬touched location →
    (later.node? location = some (.file content) ↔ disk.node? location = some (.file content))

theorem Leaves.refl (disk : Disk) : Leaves touched disk disk := ⟨.refl disk, fun _ _ _ => .rfl⟩

theorem Leaves.trans (first : Leaves touched disk later) (second : Leaves touched later last) :
    Leaves touched disk last where
  keeps := first.keeps.trans second.keeps
  file := fun location content untouched =>
    (second.file location content untouched).trans (first.file location content untouched)

theorem Leaves.mono {wider : Location → Prop} (leaves : Leaves touched disk later)
    (widens : ∀ location, touched location → wider location) : Leaves wider disk later where
  keeps := leaves.keeps
  file := fun location content untouched =>
    leaves.file location content fun narrow => untouched (widens location narrow)

theorem Leaves.ofFurnished {ways : Location → Prop} (furnished : Furnished ways disk later) :
    Leaves touched disk later :=
  ⟨furnished.keeps, fun _ _ _ => ⟨furnished.file, furnished.node?_some⟩⟩

theorem Leaves.ofAlters {node : Option Node} (alters : Alters location node disk later)
    (noDirectory : disk.node? location ≠ some .directory) : Leaves (· = location) disk later where
  keeps := alters.keeps noDirectory
  file := fun _ _ elsewhere => by rw [alters.elsewhere elsewhere]

/-! ## Names that are too long -/

theorem find_eq_nameTooLong_iff : disk.find path = .error .nameTooLong ↔
    maxPathLength ≤ path.text.utf8ByteSize ∨
      disk.follow (disk.start path) path.parts = .error .nameTooLong := by
  have found : disk.find path = .error .nameTooLong ↔ disk.locate path = .error .nameTooLong := by
    refine bind_eq_error_iff.trans (or_iff_left ?_)
    rintro ⟨location, _, answered⟩
    split at answered <;> cases answered
  rw [found]
  unfold locate
  split
  · rename_i long
    exact iff_of_true rfl (.inl long)
  · rename_i short
    exact (or_iff_right short).symm

/-- Names that can be followed are followed first. -/
theorem follow_append {names more : List String} (passable : disk.Passable location names) :
    disk.follow location (names ++ more) = disk.follow (names.foldl step location) more := by
  induction names generalizing location with
  | nil => rfl
  | cons name names induction =>
      obtain ⟨directory, short, passable⟩ := passable
      rw [List.cons_append, follow, directory]
      exact (if_neg (Nat.not_lt.mpr short)).trans (induction passable)

/-- Whether a name is too long is told by the directories alone. -/
theorem follow_nameTooLong_iff {names : List String}
    (same : ∀ location, later.node? location = some .directory ↔
      disk.node? location = some .directory) :
    later.follow location names = .error .nameTooLong ↔
      disk.follow location names = .error .nameTooLong := by
  have stops {disk : Disk} {location : Location} {name : String} {names : List String}
      (noDirectory : disk.node? location ≠ some .directory) :
      disk.follow location (name :: names) ≠ .error .nameTooLong := by
    rw [follow]
    split
    · simp
    · simp
    · rename_i directory
      exact absurd directory noDirectory
  induction names generalizing location with
  | nil => simp [follow]
  | cons name names induction =>
      by_cases directory : disk.node? location = some .directory
      · rw [follow, follow, directory, (same location).mpr directory]
        by_cases long : name.utf8ByteSize > maxNameLength
        · simp only [if_pos long]
        · simp only [if_neg long]
          exact induction
      · exact iff_of_false (stops fun here => directory ((same location).mp here)) (stops directory)

/-! ## Whether a file stands at a path -/

/-- Only a name that is too long keeps a question from being answered. -/
theorem ask_eq_error_iff {fault : FileFault} : disk.ask path answer = .error fault ↔
    fault = .nameTooLong ∧ path.hasNul = false ∧ disk.find path = .error .nameTooLong := by
  unfold ask
  split
  · rename_i nul
    simp [nul]
  · rename_i noNul
    split
    · rename_i found
      simp [found]
    · rename_i tooLong
      simp [noNul, tooLong, eq_comm]
    · rename_i notLong failed
      simpa [failed] using fun _ _ => notLong

theorem isFile_of_nameTooLong (noNul : path.hasNul = false)
    (tooLong : disk.find path = .error .nameTooLong) : disk.isFile path = .error .nameTooLong := by
  unfold isFile ask
  rw [noNul, tooLong]
  rfl

/-- The answer is told by whether it is yes, and whether a name is too long. -/
theorem ask_eq (found : later.ask path answer = .ok true ↔ disk.ask path answer = .ok true)
    (tooLong : later.find path = .error .nameTooLong ↔ disk.find path = .error .nameTooLong) :
    later.ask path answer = disk.ask path answer := by
  by_cases long : disk.find path = .error .nameTooLong
  · rw [ask, ask, long, tooLong.mpr long]
  · have answers (disk : Disk) (notLong : disk.find path ≠ .error .nameTooLong) :
        disk.ask path answer = .ok true ∨ disk.ask path answer = .ok false := by
      unfold ask
      split
      · exact .inr rfl
      · split
        · rename_i node _
          cases answer node with
          | true => exact .inl rfl
          | false => exact .inr rfl
        · rename_i found
          exact absurd found notLong
        · exact .inr rfl
    rcases answers disk long with yes | no
    · rw [yes, found.mpr yes]
    · rcases answers later fun here => long (tooLong.mp here) with yes | alsoNo
      · exact absurd (no.symm.trans (found.mp yes)) nofun
      · rw [no, alsoNo]

theorem isFile_eq (found : later.isFile path = .ok true ↔ disk.isFile path = .ok true)
    (tooLong : later.find path = .error .nameTooLong ↔ disk.find path = .error .nameTooLong) :
    later.isFile path = disk.isFile path :=
  ask_eq found tooLong

/-- No name is too long where all names of a path are short. -/
theorem find_nameTooLong_iff_of_short
    (short : ∀ name ∈ path.parts, name.utf8ByteSize ≤ maxNameLength) :
    later.find path = .error .nameTooLong ↔ disk.find path = .error .nameTooLong := by
  rw [find_eq_nameTooLong_iff, find_eq_nameTooLong_iff,
    or_iff_left (follow_ne_nameTooLong short), or_iff_left (follow_ne_nameTooLong short)]

/-- A file that stands at the destination of a path is reached by it. -/
def Seen (disk : Disk) (path : Path) : Prop :=
  ∀ content, disk.node? (disk.destination path) = some (.file content) → disk.Reaches path

theorem Leaves.isFile_iff (leaves : Leaves touched disk later)
    (untouched : ¬touched (disk.destination path)) (seen : disk.Seen path) :
    later.isFile path = .ok true ↔ disk.isFile path = .ok true := by
  rw [isFile_eq_true_iff, isFile_eq_true_iff, destination_of_current leaves.keeps.current]
  constructor
  · rintro ⟨_, content, file⟩
    have before := (leaves.file _ content untouched).mp file
    exact ⟨seen content before, content, before⟩
  · rintro ⟨reaches, content, file⟩
    exact ⟨leaves.keeps.reaches reaches, content, (leaves.file _ content untouched).mpr file⟩

/-- What is asked about a path whose names are short has the same answer. -/
theorem Leaves.isFile_of_short (leaves : Leaves touched disk later)
    (untouched : ¬touched (disk.destination path)) (seen : disk.Seen path)
    (short : ∀ name ∈ path.parts, name.utf8ByteSize ≤ maxNameLength) :
    later.isFile path = disk.isFile path :=
  isFile_eq (leaves.isFile_iff untouched seen) (find_nameTooLong_iff_of_short short)

/-- Nor does any name become too long where no directory is new. -/
theorem Keeps.find_nameTooLong_iff (keeps : disk.Keeps later)
    (noneMade : ∀ location, later.node? location = some .directory →
      disk.node? location = some .directory) :
    later.find path = .error .nameTooLong ↔ disk.find path = .error .nameTooLong := by
  rw [find_eq_nameTooLong_iff, find_eq_nameTooLong_iff, start_of_current keeps.current,
    follow_nameTooLong_iff fun location => ⟨noneMade location, keeps.directory location⟩]

/-- Where no directory is new, the same answer is given to whatever is asked. -/
theorem Leaves.isFile_of_noneMade (leaves : Leaves touched disk later)
    (noneMade : ∀ location, later.node? location = some .directory →
      disk.node? location = some .directory)
    (untouched : ¬touched (disk.destination path)) : later.isFile path = disk.isFile path := by
  have passable {location : Location} {names : List String}
      (passable : later.Passable location names) : disk.Passable location names :=
    (Keeps.mk leaves.keeps.current.symm noneMade).passable passable
  refine isFile_eq ?_ (leaves.keeps.find_nameTooLong_iff noneMade)
  rw [isFile_eq_true_iff, isFile_eq_true_iff, destination_of_current leaves.keeps.current]
  constructor
  · rintro ⟨reaches, content, file⟩
    refine ⟨⟨reaches.noNul, reaches.short, ?_⟩, content,
      (leaves.file _ content untouched).mp file⟩
    exact start_of_current leaves.keeps.current path ▸ passable reaches.passable
  · rintro ⟨reaches, content, file⟩
    exact ⟨leaves.keeps.reaches reaches, content, (leaves.file _ content untouched).mpr file⟩

/-- In a directory that is there, a name is too long by itself. -/
theorem follow_child {slashes : Nat} {names more : List String} {name : String}
    (reaches : disk.Reaches ⟨slashes, names⟩)
    (directory : disk.node? (disk.destination ⟨slashes, names⟩) = some .directory) :
    disk.follow (disk.start ⟨slashes, names ++ name :: more⟩) (names ++ name :: more) =
      if maxNameLength < name.utf8ByteSize then .error .nameTooLong
      else disk.follow (step (disk.destination ⟨slashes, names⟩) name) more := by
  have same : disk.start ⟨slashes, names ++ name :: more⟩ = disk.start ⟨slashes, names⟩ := rfl
  rw [same, follow_append reaches.passable, follow]
  rw [show names.foldl step (disk.start ⟨slashes, names⟩) = disk.destination ⟨slashes, names⟩
    from rfl, directory]

/-- A name that is too long for a directory that is there. -/
theorem isFile_of_longName {slashes : Nat} {names more : List String} {name : String}
    (reaches : disk.Reaches ⟨slashes, names⟩)
    (directory : disk.node? (disk.destination ⟨slashes, names⟩) = some .directory)
    (noNul : (name :: more).any (·.toList.contains '\x00') = false)
    (long : maxNameLength < name.utf8ByteSize) :
    disk.isFile ⟨slashes, names ++ name :: more⟩ = .error .nameTooLong := by
  have nulFree : Path.hasNul ⟨slashes, names ++ name :: more⟩ = false := by
    rw [Path.hasNul, List.any_append, noNul, Bool.or_false]
    exact reaches.noNul
  refine isFile_of_nameTooLong nulFree (find_eq_nameTooLong_iff.mpr (.inr ?_))
  rw [follow_child reaches directory, if_pos long]

/-- What stands at a path as before is found as before. -/
theorem Keeps.pathExists_eq (keeps : disk.Keeps later)
    (same : later.node? (disk.destination path) = disk.node? (disk.destination path))
    (seen : disk.node? (disk.destination path) ≠ none → disk.Reaches path)
    (tooLong : later.find path = .error .nameTooLong ↔ disk.find path = .error .nameTooLong) :
    later.pathExists path = disk.pathExists path := by
  refine ask_eq ?_ tooLong
  rw [← pathExists, ← pathExists, pathExists_eq_true_iff, pathExists_eq_true_iff,
    destination_of_current keeps.current, same]
  constructor
  · rintro ⟨_, taken⟩
    exact ⟨seen (Option.isSome_iff_ne_none.mp taken), taken⟩
  · rintro ⟨reaches, taken⟩
    exact ⟨keeps.reaches reaches, taken⟩

theorem Keeps.readText_eq (keeps : disk.Keeps later) (reaches : disk.Reaches path)
    (same : later.node? (disk.destination path) = disk.node? (disk.destination path)) :
    later.readText path = disk.readText path := by
  have files : later.fileAt path = disk.fileAt path := by
    rw [fileAt, fileAt, reaches.place, (keeps.reaches reaches).place,
      destination_of_current keeps.current]
    simp only [bind, Except.bind, same]
  rw [readText, readText, files]

end Disk

end AgentFlow
