import AgentFlow.Proofs.Files.Work

/-!
# What a move does to the files

A move takes a file, or a directory with all that is below it, to another place.  On a disk
that is a tree it makes no directory of a file, and the files that it brings are at or below
the place it goes to.
-/

namespace AgentFlow

namespace Disk

variable {disk between later : Disk} {here there location : Location}

/-- Everything stands in a directory. -/
def IsTree (disk : Disk) : Prop :=
  ∀ entry ∈ disk.nodes, disk.node? entry.1.dropLast = some .directory

instance : Decidable disk.IsTree :=
  inferInstanceAs (Decidable (∀ entry ∈ disk.nodes, disk.node? entry.1.dropLast = some .directory))

theorem IsTree.parent (tree : disk.IsTree) (taken : disk.node? location ≠ none) :
    disk.node? location.dropLast = some .directory := by
  by_cases root : location = []
  · subst root
    rfl
  · obtain ⟨node, found⟩ := Option.ne_none_iff_exists'.mp taken
    exact tree _ (mem_nodes_of_node? root found)

/-- What stands somewhere has something standing at every place above it. -/
theorem IsTree.above (tree : disk.IsTree) {above : Location}
    (taken : disk.node? location ≠ none) (isPrefix : above <+: location) :
    disk.node? above ≠ none := by
  obtain ⟨rest, rfl⟩ := isPrefix
  induction rest using List.reverseRecOn with
  | nil => simpa using taken
  | append_singleton rest name induction =>
      refine induction ?_
      have directory := tree.parent taken
      rw [← List.append_assoc, List.dropLast_concat] at directory
      simp [directory]

/-- What stands in a directory is one of its names. -/
theorem mem_namesIn {name : String} (taken : disk.node? (location ++ [name]) ≠ none) :
    name ∈ disk.namesIn location := by
  obtain ⟨node, found⟩ := Option.ne_none_iff_exists'.mp taken
  refine List.mem_filterMap.mpr ⟨_, mem_nodes_of_node? ?_ found, ?_⟩
  · simp
  · simp

/-- So it keeps the directory from being empty. -/
theorem namesIn_ne_nil {name : String} (taken : disk.node? (location ++ [name]) ≠ none) :
    disk.namesIn location ≠ [] :=
  List.ne_nil_of_mem (mem_namesIn taken)

/-- What is found among moved entries was found before under the key that is moved there. -/
theorem lookup_moved {nodes : List (Location × Node)} {isKept : Location → Bool}
    {move : Location → Location} {node : Node}
    (found : ((nodes.filter fun entry => isKept entry.1).map
      fun entry => (move entry.1, entry.2)).lookup location = some node) :
    ∃ place, nodes.lookup place = some node ∧ isKept place = true ∧ move place = location := by
  -- Keys may clash once they are moved, but the first hit is the first entry of its own key.
  induction nodes with
  | nil => cases found
  | cons entry nodes induction =>
      have further (rest : ((nodes.filter fun entry => isKept entry.1).map
          fun entry => (move entry.1, entry.2)).lookup location = some node)
          (passed : isKept entry.1 = false ∨ move entry.1 ≠ location) :
          ∃ place, (entry :: nodes).lookup place = some node ∧ isKept place = true ∧
            move place = location := by
        obtain ⟨place, before, kept, moved⟩ := induction rest
        refine ⟨place, ?_, kept, moved⟩
        have differs : place ≠ entry.1 := by
          rintro rfl
          rcases passed with dropped | elsewhere
          · rw [dropped] at kept
            cases kept
          · exact elsewhere moved
        rw [List.lookup_cons, beq_eq_false_iff_ne.mpr differs]
        exact before
      cases kept : isKept entry.1 with
      | false =>
          rw [List.filter_cons_of_neg (by simp [kept])] at found
          exact further found (.inl kept)
      | true =>
          rw [List.filter_cons_of_pos (by simp [kept]), List.map_cons, List.lookup_cons] at found
          by_cases here : move entry.1 = location
          · rw [here, beq_self_eq_true] at found
            refine ⟨entry.1, ?_, kept, here⟩
            rw [List.lookup_cons, beq_self_eq_true]
            exact found
          · rw [beq_eq_false_iff_ne.mpr (Ne.symm here)] at found
            exact further found (.inr here)

/-- Where a move takes what stands at a place. -/
def movedPlace (here there place : Location) : Location :=
  if here.isPrefixOf place then there ++ place.drop here.length else place

theorem nodes_moveTree (disk : Disk) (here there : Location) :
    (disk.moveTree here there).nodes =
      (disk.nodes.filter fun entry => !there.isPrefixOf entry.1).map
        fun entry => (movedPlace here there entry.1, entry.2) := by
  refine List.map_congr_left fun ⟨place, node⟩ _ => ?_
  unfold movedPlace
  by_cases below : here.isPrefixOf place = true
  · simp only [if_pos below]
  · simp only [if_neg below]

/-- What stands somewhere after a directory is moved stood there before and was not moved, or it
was below the directory and is now below the place that the directory goes to. -/
theorem node?_moveTree {node : Node} (notRoot : here ≠ []) (inside : location ≠ [])
    (found : (disk.moveTree here there).node? location = some node) :
    ∃ place, disk.node? place = some node ∧ (place = location ∨ there <+: location) := by
  rw [node?_eq_lookup inside, nodes_moveTree] at found
  obtain ⟨place, before, _, moved⟩ := @lookup_moved location disk.nodes
    (fun place => !there.isPrefixOf place) (movedPlace here there) node found
  unfold movedPlace at moved
  split at moved
  · rename_i below
    refine ⟨place, ?_, .inr (moved ▸ List.prefix_append _ _)⟩
    rw [node?_eq_lookup, before]
    rintro rfl
    exact notRoot (List.prefix_nil.mp (List.isPrefixOf_iff_prefix.mp below))
  · subst moved
    exact ⟨place, by rw [node?_eq_lookup inside, before], .inl rfl⟩

/-- What a move from one place to another can do to a disk. -/
inductive MovesNode (disk : Disk) (here there : Location) : Disk → Prop where
  | same : MovesNode disk here there disk
  | file {content : Content} :
      disk.node? here = some (.file content) → disk.node? there ≠ some .directory →
      MovesNode disk here there ((disk.erase here).put there (.file content))
  | directory :
      here ≠ [] →
      (disk.node? there = none ∨ disk.node? there = some .directory ∧ disk.namesIn there = []) →
      MovesNode disk here there (disk.moveTree here there)

/-- What a move leaves of the files of a disk. -/
structure Shifts (there : Location) (disk later : Disk) : Prop where
  current : later.current = disk.current
  file : ∀ location content, later.node? location = some (.file content) →
    ∃ place, disk.node? place = some (.file content) ∧ (place = location ∨ there <+: location)
  noDirectory : ∀ location content, disk.node? location = some (.file content) →
    later.node? location ≠ some .directory

theorem Shifts.refl (there : Location) (disk : Disk) : Shifts there disk disk :=
  ⟨rfl, fun location _ file => ⟨location, file, .inl rfl⟩, fun _ _ => noDirectory_of_file⟩

/-- Something stands at every place above a file. -/
def Rooted (disk : Disk) : Prop :=
  ∀ location content above, disk.node? location = some (.file content) → above <+: location →
    disk.node? above ≠ none

theorem IsTree.rooted (tree : disk.IsTree) : disk.Rooted :=
  fun _ _ _ file isPrefix => tree.above (by simp [file]) isPrefix

theorem Rooted.furnished {ways : Location → Prop} (rooted : disk.Rooted)
    (furnished : Furnished ways disk later) : later.Rooted := by
  intro location content above file isPrefix
  have taken := rooted location content above (furnished.file file) isPrefix
  obtain ⟨node, found⟩ := Option.ne_none_iff_exists'.mp taken
  simp [furnished.node?_some found]

/-- No file stands at or below a place that a directory can take. -/
theorem Rooted.not_below {content : Content} (rooted : disk.Rooted)
    (vacant : disk.node? there = none ∨
      disk.node? there = some .directory ∧ disk.namesIn there = [])
    (file : disk.node? location = some (.file content)) : ¬there <+: location := by
  intro isPrefix
  rcases vacant with free | ⟨directory, empty⟩
  · exact rooted location content there file isPrefix free
  · obtain ⟨rest, rfl⟩ := isPrefix
    cases rest with
    | nil =>
        rw [List.append_nil, directory] at file
        cases file
    | cons name rest =>
        refine namesIn_ne_nil (rooted _ content (there ++ [name]) file ?_) empty
        exact ⟨rest, by simp⟩

theorem MovesNode.shifts (moves : disk.MovesNode here there later) (rooted : disk.Rooted) :
    Shifts there disk later := by
  cases moves with
  | same => exact .refl there disk
  | @file moved fileHere noDirectory =>
      have outside := ne_root_of_node? (noDirectory_of_file fileHere)
      have node (location : Location) :
          ((disk.erase here).put there (.file moved)).node? location =
            if location = there then some (.file moved)
            else if location = here then none else disk.node? location := by
        rw [node?_put (ne_root_of_node? noDirectory), node?_erase outside]
      refine ⟨rfl, fun location content file => ?_, fun location content file directory => ?_⟩
      · rw [node] at file
        split at file
        · rename_i atTarget
          cases file
          exact ⟨here, fileHere, .inr (atTarget ▸ List.prefix_refl _)⟩
        · split at file
          · cases file
          · exact ⟨location, file, .inl rfl⟩
      · rw [node] at directory
        split at directory
        · cases directory
        · split at directory
          · cases directory
          · rw [file] at directory
            cases directory
  | directory notRoot vacant =>
      refine ⟨rfl, fun location content file => ?_, fun location content file directory => ?_⟩
      · exact node?_moveTree notRoot (ne_root_of_node? (noDirectory_of_file file)) file
      · have inside := ne_root_of_node? (noDirectory_of_file file)
        obtain ⟨place, found, same | below⟩ := node?_moveTree notRoot inside directory
        · rw [same, file] at found
          cases found
        · exact rooted.not_below vacant file below

theorem Shifts.furnished {ways : Location → Prop} (furnished : Furnished ways disk between)
    (shifts : Shifts there between later) : Shifts there disk later where
  current := shifts.current.trans furnished.current
  file := by
    intro location content file
    obtain ⟨place, found, from_⟩ := shifts.file location content file
    exact ⟨place, furnished.file found, from_⟩
  noDirectory := fun location content file =>
    shifts.noDirectory location content (furnished.node?_some file)

end Disk

namespace Work

variable {disk : Disk}

end Work

end AgentFlow
