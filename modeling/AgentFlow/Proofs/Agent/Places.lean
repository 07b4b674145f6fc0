import AgentFlow.Agent.Promotion
import AgentFlow.Proofs.Agent.Registry
import AgentFlow.Proofs.Files.Work

/-!
# The places of the files of a store

The journal lies beside the registry, and temporary files lie beside both.  That these
places and those of definitions differ is told by the ends of their names, or by the
lengths of their names.
-/

namespace AgentFlow

open AgentFlow.Text

namespace Disk

/-- The last character of the last name of a location. -/
def ending (location : Location) : Option Char :=
  location.getLast?.bind fun name => name.toList.getLast?

theorem ne_of_ending {first second : Location} (differ : ending first ≠ ending second) :
    first ≠ second := by
  rintro rfl
  exact differ rfl

theorem ending_concat (location : Location) (name : String) {suffix : String} {last : Char}
    (ends : suffix.toList.getLast? = some last) : ending (location ++ [name ++ suffix]) = some last := by
  simp only [ending, List.getLast?_append, List.getLast?_singleton, Option.some_or,
    Option.bind_some, String.toList_append, ends]

variable {disk : Disk} {directory : Path} {name : String}

theorem destination_definition (identifier : isIdentifier name = true) :
    disk.destination (definitionPath directory name) =
      disk.destination directory ++ [name ++ definitionSuffix] := by
  rw [definitionPath_eq identifier]
  exact destination_of_parts rfl (definition_ne_dots name)

theorem isMovable_definition (identifier : isIdentifier name = true) :
    isMovable (definitionPath directory name) = true := by
  rw [isMovable, name_definitionPath identifier, Bool.and_eq_true, bne_iff_ne, bne_iff_ne]
  exact ⟨definition_ne_empty name, definition_ne_dots name⟩

theorem ending_definition (identifier : isIdentifier name = true) :
    ending (disk.destination (definitionPath directory name)) = some 'd' := by
  rw [destination_definition identifier]
  exact ending_concat _ name rfl

theorem eq_of_definition_eq {other : String}
    (same : name ++ definitionSuffix = other ++ definitionSuffix) : name = other := by
  have sameChars := congrArg String.toList same
  rw [String.toList_append, String.toList_append] at sameChars
  exact String.toList_inj.mp (List.append_cancel_right sameChars)

/-- In one directory the place of a definition tells its name. -/
theorem destination_definition_inj {other : String} (identifier : isIdentifier name = true)
    (otherIdentifier : isIdentifier other = true)
    (same : disk.destination (definitionPath directory name) =
      disk.destination (definitionPath directory other)) : name = other := by
  rw [destination_definition identifier, destination_definition otherIdentifier] at same
  exact eq_of_definition_eq (by simpa using same)

theorem ending_temporary (path : Path) (n : Nat) :
    ending (disk.destination (Work.temporaryBeside path n)) = some 'p' := by
  rw [destination_temporaryBeside]
  exact ending_concat _ _ rfl

theorem definition_ne_temporary (identifier : isIdentifier name = true) (path : Path) (n : Nat) :
    disk.destination (definitionPath directory name) ≠
      disk.destination (Work.temporaryBeside path n) :=
  ne_of_ending (by rw [ending_definition identifier, ending_temporary]; decide)

end Disk

namespace Store

variable {store : Store} {journal : Path} (journalPath : store.journalPath = .ok journal)

include journalPath

theorem journal_eq : store.registryPath.parts ≠ [] ∧
    journal = ⟨store.registryPath.slashes, store.registryPath.parts.dropLast ++
      [store.registryPath.name ++ ".journal"]⟩ := by
  unfold Store.journalPath Path.appendToName? at journalPath
  split at journalPath
  · rename_i path found
    split at found
    · cases found
    · rename_i some_
      cases found
      exact ⟨by simpa using some_, (Except.ok.inj journalPath).symm⟩
  · cases journalPath

theorem journal_named : journal.parts ≠ [] := by
  rw [(journal_eq journalPath).2]
  simp

theorem journal_parent : journal.parent = store.registryPath.parent := by
  rw [(journal_eq journalPath).2]
  simp [Path.parent]

theorem journal_name : journal.name = store.registryPath.name ++ ".journal" := by
  rw [(journal_eq journalPath).2]
  simp [Path.name]

theorem journal_name_length : journal.name.length = store.registryPath.name.length + 8 := by
  have suffix : ".journal".length = 8 := rfl
  rw [journal_name journalPath, String.length_append, suffix]

variable (disk : Disk)

theorem destination_journal :
    disk.destination journal =
      disk.destination store.registryPath.parent ++ [store.registryPath.name ++ ".journal"] := by
  have named := Path.parts_eq_concat (journal_named journalPath)
  rw [Disk.destination_of_parts named, ← journal_parent journalPath, journal_name journalPath]
  · rfl
  · intro same
    have long := journal_name_length journalPath
    rw [same] at long
    have short : "..".length = 2 := rfl
    omega

theorem ending_journal : Disk.ending (disk.destination journal) = some 'l' := by
  rw [destination_journal journalPath]
  exact Disk.ending_concat _ _ rfl

theorem journal_ne_definition {directory : Path} {name : String}
    (identifier : isIdentifier name = true) :
    disk.destination journal ≠ disk.destination (definitionPath directory name) :=
  Disk.ne_of_ending
    (by rw [ending_journal journalPath, Disk.ending_definition identifier]; decide)

theorem journal_ne_temporary (path : Path) (n : Nat) :
    disk.destination journal ≠ disk.destination (Work.temporaryBeside path n) :=
  Disk.ne_of_ending (by rw [ending_journal journalPath, Disk.ending_temporary]; decide)

theorem journal_ne_registry : disk.destination journal ≠ disk.destination store.registryPath := by
  have long := journal_name_length journalPath
  rw [journal_name journalPath] at long
  rw [destination_journal journalPath]
  exact Ne.symm (Disk.destination_ne_longer (journal_eq journalPath).1 (by omega))

theorem registry_ne_temporary (n : Nat) :
    disk.destination store.registryPath ≠
      disk.destination (Work.temporaryBeside store.registryPath n) :=
  Ne.symm (Disk.temporary_ne (journal_eq journalPath).1 n)

theorem registry_ne_journal_temporary (n : Nat) :
    disk.destination store.registryPath ≠ disk.destination (Work.temporaryBeside journal n) := by
  have long := journal.temporaryName_length n
  have longer := journal_name_length journalPath
  rw [Disk.destination_temporaryBeside, journal_parent journalPath]
  exact Disk.destination_ne_longer (journal_eq journalPath).1 (by omega)

variable {disk}

theorem registry_name_noNul (noNul : journal.hasNul = false) :
    store.registryPath.name.toList.contains '\x00' = false := by
  rw [(journal_eq journalPath).2] at noNul
  simp only [Path.hasNul, List.any_append, List.any_cons, List.any_nil, Bool.or_false,
    Bool.or_eq_false_iff, String.toList_append, List.contains_eq_mem, List.mem_append,
    decide_eq_false_iff_not, not_or] at noNul ⊢
  exact noNul.2.1

/-- Where the journal can be, the registry can be. -/
theorem registry_reaches (reaches : disk.Reaches journal) : disk.Reaches store.registryPath := by
  obtain ⟨named, shape⟩ := journal_eq journalPath
  have noNul := registry_name_noNul journalPath reaches.noNul
  rw [shape] at reaches
  rw [Path.eq_concat named]
  refine reaches.sibling ?_ noNul
  rw [String.utf8ByteSize_append]
  omega

/-- Near the journal all directories are there. -/
theorem registry_paved (reaches : disk.Reaches journal) (location : Location)
    (onWay : disk.OnWay store.registryPath.parent location) :
    disk.node? location = some .directory := by
  rw [← journal_parent journalPath] at onWay
  exact reaches.directory_of_onWay (journal_named journalPath) onWay

end Store

/-! ## A plain store -/

namespace Store

/-- A store with its registry beside the definitions. -/
def plainStore : Store := ⟨⟨0, ["agents"]⟩, ⟨0, ["temp"]⟩, ⟨0, ["agents", "r"]⟩⟩

/-- Files in a directory of temporary agents. -/
def temporaryDisk (files : List (Location × Node)) : Disk := ⟨(["temp"], .directory) :: files, []⟩

def someDay : Date := ⟨2026, 1, 2⟩

theorem eq_of_answer {α : Type} {ended : Except (Halt Error) α × Machine} {answer : α}
    (answered : ended.1.toOption = some answer) : ended = (.ok answer, ended.2) := by
  rw [← toOption_eq_some_iff.mp answered]

end Store

end AgentFlow
