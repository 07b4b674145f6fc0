import AgentFlow.Proofs.Agent.Ending
import AgentFlow.Proofs.Agent.Persistence
import AgentFlow.Workflow.Program

/-!
# Uses that are counted

Counting a use of a registered agent writes the table over itself; counting one of an agent
that is not registered writes nothing.  What the steps of a workflow add to a table is told
by how many of them run a defined agent of each name.
-/

namespace AgentFlow

open AgentFlow.Number

/-- How many of the steps run the defined agent of a name. -/
def usesOf (name : String) (steps : List Step) : Nat :=
  steps.countP fun step =>
    step.descriptor.source = .defined ∧ step.invocation.agentName = name

theorem usesOf_append (name : String) (first second : List Step) :
    usesOf name (first ++ second) = usesOf name first + usesOf name second :=
  List.countP_append

namespace Registry

/-- The table with the uses of some steps added to its counts. -/
def withUses (steps : List Step) (table : Registry) : Registry :=
  table.map fun line =>
    (line.1, { line.2 with usageCount := line.2.usageCount + usesOf line.1 steps })

/-- The table after one step: a use of a defined agent is counted. -/
def afterStep (step : Step) (table : Registry) : Registry :=
  if step.descriptor.source = .defined then table.count step.invocation.agentName else table

variable {table : Registry} {name : String} {step : Step} {steps : List Step}

theorem keys_withUses (steps : List Step) (table : Registry) :
    (table.withUses steps).map Prod.fst = table.map Prod.fst := by
  rw [withUses, List.map_map]
  rfl

theorem withUses_nil (table : Registry) : table.withUses [] = table := by
  refine (List.map_congr_left fun line _ => ?_).trans (List.map_id table)
  simp [usesOf]

theorem withUses_append (first second : List Step) (table : Registry) :
    table.withUses (first ++ second) = (table.withUses first).withUses second := by
  rw [withUses, withUses, withUses, List.map_map]
  refine List.map_congr_left fun line _ => ?_
  simp [usesOf_append, Int.add_assoc]

theorem withUses_singleton (step : Step) (table : Registry) :
    table.withUses [step] = table.afterStep step := by
  unfold afterStep
  split
  · rename_i defined
    refine List.map_congr_left fun line _ => ?_
    by_cases here : line.1 = step.invocation.agentName
    · simp [usesOf, defined, here, Entry.used]
    · simp [usesOf, Ne.symm here, here]
  · rename_i notDefined
    refine (List.map_congr_left fun line _ => ?_).trans (List.map_id table)
    simp [usesOf, notDefined]

/-- Counts between two that can be written can be written. -/
theorem Countable.between {before later : List Step} (countable : table.Countable)
    (atEnd : (table.withUses (before ++ later)).Countable) :
    (table.withUses before).Countable := by
  intro name entry member
  obtain ⟨line, inTable, same⟩ := List.mem_map.mp member
  cases same
  have first := countable line.1 line.2 inTable
  have last := atEnd _ _ (List.mem_map_of_mem inTable)
  rw [usesOf_append] at last
  unfold Entry.IsCountable at first last ⊢
  dsimp only at first last ⊢
  generalize Nat.pow 10 maxDigits = bound at first last ⊢
  omega

theorem WellFormed.count (wellFormed : table.WellFormed) (name : String) :
    (table.count name).WellFormed where
  distinct := by
    rw [keys_count]
    exact wellFormed.distinct
  entries := by
    intro other entry member
    obtain ⟨line, inTable, same⟩ := List.mem_map.mp member
    have isFor := wellFormed.entries line.1 line.2 inTable
    split at same
    · cases same
      exact ⟨isFor.agentName, isFor.file⟩
    · cases same
      exact isFor

end Registry

namespace Store

variable {store : Store} {disk : Disk} {table : Registry} {name : String}

/-- A registry file that was written over can be written over again. -/
theorem Keeps.writable {later : Disk} (keeps : store.Keeps table later)
    (writable : disk.Writable store.registryPath)
    (few : later.nodes.length ≤ disk.nodes.length) : later.Writable store.registryPath where
  movable := writable.movable
  clear := fun location onWay => Or.inr (keeps.reaches.directory_of_onWay
    (Path.parts_ne_nil_of_isMovable writable.movable) onWay)
  aside := by
    intro onWay
    have directory := keeps.reaches.directory_of_onWay
      (Path.parts_ne_nil_of_isMovable writable.movable) onWay
    exact Disk.noDirectory_of_file keeps.file directory
  noDirectory := Disk.noDirectory_of_file keeps.file
  temporary := writable.temporary
  room := Nat.lt_of_le_of_lt (by omega) writable.room

theorem incrementUsage_of_absent {machine : Machine} (loaded : store.load machine.disk = .ok table)
    (absent : table.get? name = none) : ∃ record, store.incrementUsage name machine =
      (.ok (), { machine with records := machine.records ++ [record] }) := by
  unfold incrementUsage
  rw [Work.ask_bind_of_ok loaded]
  simp only [absent]
  exact ⟨_, rfl⟩

theorem completes_incrementUsage_of_found {entry : Entry} {after : Unit → Disk → Prop}
    (loaded : store.load disk = .ok table) (found : table.get? name = some entry)
    (saves : (store.save (table.insert name entry.used)).Completes disk after) :
    (store.incrementUsage name).Completes disk after := by
  unfold incrementUsage
  refine Work.completes_ask_bind loaded ?_
  simp only [found]
  exact saves.bind fun _ _ => Work.completes_tell

/-- Without mishaps a use is counted. -/
theorem completes_incrementUsage (loaded : store.load disk = .ok table)
    (writable : disk.Writable store.registryPath) (countable : (table.count name).Countable) :
    (store.incrementUsage name).Completes disk fun _ later =>
      store.load later = .ok (table.count name) ∧ later.Writable store.registryPath ∧
        (name ∉ table.map Prod.fst → later = disk) := by
  have wellFormed := wellFormed_of_load loaded
  cases found : table.get? name with
  | none =>
      rw [Registry.count_of_absent (Registry.get?_eq_none_iff.mp found)]
      rintro machine rfl noMishaps
      obtain ⟨record, ended⟩ := incrementUsage_of_absent loaded found
      exact ⟨(), _, ended, noMishaps, loaded, writable, fun _ => rfl⟩
  | some entry =>
      have present : name ∈ table.map Prod.fst := by
        by_contra absent
        rw [Registry.get?_eq_none_iff.mpr absent] at found
        cases found
      obtain ⟨reaches, content, file⟩ := (file_of_load loaded).resolve_left (by
        rintro rfl
        cases present)
      have room := writable.room
      have saves := (completes_save_over countable reaches file writable.movable
        writable.temporary (by omega)).leads (leads_save_keeps (wellFormed.count name))
      have counted : table.insert name entry.used = table.count name :=
        Registry.insert_used wellFormed.distinct found
      rw [← counted] at saves ⊢
      refine completes_incrementUsage_of_found loaded found (saves.mono ?_)
      rintro _ later ⟨keeps, few⟩
      exact ⟨keeps.loaded, keeps.writable writable few, fun absent => absurd present absent⟩

end Store

end AgentFlow
