import AgentFlow.Proofs.Files.Disk

/-!
# What a change does

Each change is made if its paths lead to their destinations and what stands there is
what the change needs; then the new disk is told by the destinations alone.
-/

namespace AgentFlow

variable {α : Type} {disk later : Disk} {path source target : Path}

namespace Disk

theorem place_bind_eq_ok_iff {next : Location → Except Fault α} {answer : α} :
    disk.place path >>= next = .ok answer ↔
      disk.Reaches path ∧ next (disk.destination path) = .ok answer := by
  rw [bind_eq_ok_iff]
  constructor
  · rintro ⟨location, placed, answered⟩
    obtain ⟨reaches, rfl⟩ := place_eq_ok_iff.mp placed
    exact ⟨reaches, answered⟩
  · rintro ⟨reaches, answered⟩
    exact ⟨disk.destination path, reaches.place, answered⟩

theorem fileAt_bind_eq_ok_iff {next : Location × Content → Except Fault α} {answer : α} :
    disk.fileAt path >>= next = .ok answer ↔
      disk.Reaches path ∧
        ∃ content, disk.node? (disk.destination path) = some (.file content) ∧
          next (disk.destination path, content) = .ok answer := by
  rw [bind_eq_ok_iff]
  constructor
  · rintro ⟨⟨location, content⟩, found, answered⟩
    obtain ⟨reaches, rfl, node⟩ := fileAt_eq_ok_iff.mp found
    exact ⟨reaches, content, node, answered⟩
  · rintro ⟨reaches, content, node, answered⟩
    exact ⟨(disk.destination path, content), fileAt_eq_ok_iff.mpr ⟨reaches, rfl, node⟩, answered⟩

theorem moveNode_file_eq_ok_iff {here there : Location} {content : Content}
    (file : disk.node? here = some (.file content)) :
    disk.moveNode here there = .ok later ↔
      disk.node? there ≠ some .directory ∧
        later =
          if here = there then disk else (disk.erase here).put there (.file content) := by
  unfold moveNode
  simp only [file]
  by_cases same : here = there
  · subst same
    simp [file, eq_comm]
  · simp only [if_neg same]
    cases node : disk.node? there with
    | none => simp [eq_comm]
    | some kind =>
        cases kind with
        | directory => simp
        | file other => simp [eq_comm]

end Disk

namespace Change

theorem apply_makeDirectory_eq_ok_iff :
    (makeDirectory path).apply disk = .ok later ↔
      disk.Reaches path ∧ disk.node? (disk.destination path) = none ∧
        later = disk.put (disk.destination path) .directory := by
  refine Disk.place_bind_eq_ok_iff.trans (and_congr_right fun _ => ?_)
  cases node : disk.node? (disk.destination path) <;> simp [eq_comm]

theorem apply_makeDirectory_of_place {fault : Fault} (refused : disk.place path = .error fault) :
    (makeDirectory path).apply disk = .error fault := by
  show disk.place path >>= _ = _
  rw [refused]
  rfl

theorem apply_makeDirectory_of_taken (reaches : disk.Reaches path)
    (taken : (disk.node? (disk.destination path)).isSome = true) :
    (makeDirectory path).apply disk = .error (.file .alreadyExists) := by
  show disk.place path >>= _ = _
  rw [reaches.place]
  exact if_pos taken

theorem apply_createFile_eq_ok_iff :
    (createFile path).apply disk = .ok later ↔
      disk.Reaches path ∧ disk.node? (disk.destination path) = none ∧
        later = disk.put (disk.destination path) (.file (.text "")) := by
  refine Disk.place_bind_eq_ok_iff.trans (and_congr_right fun _ => ?_)
  cases node : disk.node? (disk.destination path) <;> simp [eq_comm]

theorem apply_writeFile_eq_ok_iff {text : String} :
    (writeFile path text).apply disk = .ok later ↔
      disk.Reaches path ∧
        ∃ content, disk.node? (disk.destination path) = some (.file content) ∧
          later = disk.put (disk.destination path) (.file (.text text)) := by
  refine Disk.fileAt_bind_eq_ok_iff.trans ?_
  simp [eq_comm]

theorem apply_syncFile_eq_ok_iff :
    (syncFile path).apply disk = .ok later ↔
      disk.Reaches path ∧
        ∃ content, disk.node? (disk.destination path) = some (.file content) ∧
          later = disk := by
  refine Disk.fileAt_bind_eq_ok_iff.trans ?_
  simp [eq_comm]

theorem apply_remove_eq_ok_iff :
    (remove path).apply disk = .ok later ↔
      disk.Reaches path ∧
        ∃ content, disk.node? (disk.destination path) = some (.file content) ∧
          later = disk.erase (disk.destination path) := by
  refine Disk.fileAt_bind_eq_ok_iff.trans ?_
  simp [eq_comm]

/-- A file that is moved to another place leaves its own, and is all that stands there. -/
theorem apply_replace_file_eq_ok_iff {content : Content}
    (file : disk.node? (disk.destination source) = some (.file content)) :
    (replace source target).apply disk = .ok later ↔
      disk.Reaches source ∧ disk.Reaches target ∧
        (Disk.isMovable source && Disk.isMovable target) = true ∧
        disk.node? (disk.destination target) ≠ some .directory ∧
        later =
          if disk.destination source = disk.destination target then disk
          else (disk.erase (disk.destination source)).put (disk.destination target)
            (.file content) := by
  refine Disk.place_bind_eq_ok_iff.trans (and_congr_right fun _ => ?_)
  refine Disk.place_bind_eq_ok_iff.trans (and_congr_right fun _ => ?_)
  rw [← Disk.moveNode_file_eq_ok_iff file]
  cases Disk.isMovable source && Disk.isMovable target with
  | true => simp [mapError_eq_ok_iff]
  | false => simp

/-- A directory does not take the place of a file. -/
theorem apply_replace_directory_ne_ok {content : Content}
    (directory : disk.node? (disk.destination source) = some .directory)
    (file : disk.node? (disk.destination target) = some (.file content)) :
    (replace source target).apply disk ≠ .ok later := by
  have elsewhere : disk.destination source ≠ disk.destination target := by
    intro same
    rw [same, file] at directory
    cases directory
  intro applied
  obtain ⟨_, applied⟩ := Disk.place_bind_eq_ok_iff.mp applied
  obtain ⟨_, applied⟩ := Disk.place_bind_eq_ok_iff.mp applied
  unfold Disk.moveNode at applied
  simp only [directory, file, if_neg elsewhere] at applied
  split at applied <;> cases applied

end Change

end AgentFlow
