import AgentFlow.Proofs.Files.Progress

/-!
# Files that can be written

A file is written by way of a temporary one beside it.  Without mishaps this comes to its
end wherever the file and the temporary one have room; directories that are missing are made.
A file that is written over leaves no more on the disk than there was before.
-/

namespace AgentFlow

namespace Disk

variable {disk : Disk} {location other : Location} {node : Node} {path : Path}

/-- A file can be written at a path, with the directories that are missing above it. -/
structure Writable (disk : Disk) (path : Path) : Prop where
  movable : isMovable path = true
  clear : disk.Clear path.parent
  aside : ¬disk.OnWay path.parent (disk.destination path)
  noDirectory : disk.node? (disk.destination path) ≠ some .directory
  temporary : ∃ n, Fits (Work.temporaryBeside path n)
  room : disk.nodes.length + path.parts.length + 1 < Work.serials

theorem onWay_iff : disk.OnWay path location ↔
    ∃ passed ∈ path.parts.inits, location = passed.foldl step (disk.start path) := by
  simp only [OnWay, List.mem_inits]

instance : Decidable (disk.OnWay path location) := decidable_of_iff _ onWay_iff.symm

theorem clear_iff : disk.Clear path ↔ ∀ passed ∈ path.parts.inits,
    disk.node? (passed.foldl step (disk.start path)) = none ∨
      disk.node? (passed.foldl step (disk.start path)) = some .directory := by
  constructor
  · exact fun clear passed inPath => clear _ (onWay_iff.mpr ⟨passed, inPath, rfl⟩)
  · intro clear location onWay
    obtain ⟨passed, inPath, rfl⟩ := onWay_iff.mp onWay
    exact clear passed inPath

instance : Decidable (disk.Clear path) := decidable_of_iff _ clear_iff.symm

theorem fits_iff : Fits path ↔ path.hasNul = false ∧
    path.text.utf8ByteSize < maxPathLength ∧
      ∀ name ∈ path.parts, name.utf8ByteSize ≤ maxNameLength :=
  ⟨fun fits => ⟨fits.noNul, fits.short, fits.names⟩, fun fits => ⟨fits.1, fits.2.1, fits.2.2⟩⟩

instance : Decidable (Fits path) := decidable_of_iff _ fits_iff.symm

theorem destination_put : (disk.put location node).destination path = disk.destination path := rfl

theorem erase_put : (disk.put location node).erase location = disk.erase location := by
  simp [put, erase, List.filter_filter]

theorem length_put_erase_le :
    ((disk.erase other).put location node).nodes.length ≤
      (disk.put location node).nodes.length :=
  Nat.succ_le_succ (List.filter_sublist.filter _).length_le

/-- What is put where something stands takes no more room. -/
theorem length_put_of_taken (inside : location ≠ []) (taken : disk.node? location ≠ none)
    (node : Node) : (disk.put location node).nodes.length ≤ disk.nodes.length := by
  obtain ⟨entry, member, here⟩ := List.mem_map.mp (mem_nodes inside taken)
  have dropped : (disk.nodes.filter (·.1 != location)).length < disk.nodes.length :=
    List.length_filter_lt_length_iff_exists.mpr ⟨entry, member, by simp [here]⟩
  exact dropped

/-- The name of a path is shorter than that of a temporary file beside it. -/
theorem fits_of_temporary (named : path.parts ≠ [])
    (temporary : ∃ n, Fits (Work.temporaryBeside path n)) : Fits path := by
  obtain ⟨n, fits⟩ := temporary
  have noNul := fits.noNul
  rw [Path.eq_concat named]
  rw [Work.temporaryBeside_eq] at fits
  refine fits.sibling ?_ ?_
  · simp only [Path.temporaryName, String.utf8ByteSize_append]
    omega
  · simp only [Work.temporaryBeside, Path.hasNul, List.any_append, List.any_cons, List.any_nil,
      Bool.or_false, Bool.or_eq_false_iff, String.toList_append, List.contains_eq_mem,
      List.mem_append, decide_eq_false_iff_not, not_or] at noNul ⊢
    exact noNul.2.1.1.1.2

end Disk

namespace Work

variable {disk : Disk} {path : Path}

/-- What is left to be done for a file once its directory is there. -/
def writeBeside (path : Path) (text : String) : Work Fault Unit := do
  let temporary := temporaryBeside path (freeSerial (← Work.disk) path)
  perform (.createFile temporary)
  (do
    perform (.writeFile temporary text)
    perform (.syncFile temporary)
    perform (.replace temporary path)).orElse fun fault => do
      (change (.remove temporary)).orElse fun removal =>
        if removal = Fault.file .missing then pure () else fail removal
      fail fault

theorem atomicWrite_eq (path : Path) (text : String) :
    atomicWrite path text = ensureParent path >>= fun _ => writeBeside path text := rfl

theorem completes_writeBeside (text : String) (reaches : disk.Reaches path)
    (movable : Disk.isMovable path = true)
    (noDirectory : disk.node? (disk.destination path) ≠ some .directory)
    (temporary : ∃ n, Disk.Fits (temporaryBeside path n)) (room : disk.nodes.length < serials) :
    (writeBeside path text).Completes disk fun _ later =>
      later.nodes.length ≤
        (disk.put (disk.destination path) (.file (.text text))).nodes.length := by
  have named := Path.parts_ne_nil_of_isMovable movable
  obtain ⟨reachesParent, directory⟩ := reaches.parent named
  refine completes_disk_bind ?_
  obtain ⟨reachesTemporary, free⟩ := freeSerial_spec reachesParent directory temporary room
  generalize freeSerial disk path = n at reachesTemporary free ⊢
  have noTemporary := Disk.noDirectory_of_none free
  have created := Disk.alters_put noTemporary (.file (.text ""))
  have empty : Filling (temporaryBeside path n) (.text "") disk _ :=
    ⟨free, (created.keeps noTemporary).reaches reachesTemporary, created⟩
  refine completes_perform_bind (Change.apply_createFile_eq_ok_iff.mpr
    ⟨reachesTemporary, free, rfl⟩) (.orElse ?_)
  have writes : (Change.writeFile (temporaryBeside path n) text).apply (disk.put _ _) = .ok _ :=
    Change.apply_writeFile_eq_ok_iff.mpr ⟨empty.reaches, _, empty.file, rfl⟩
  have full := empty.written writes
  refine completes_perform_bind writes ?_
  refine completes_perform_bind (Change.apply_syncFile_eq_ok_iff.mpr
    ⟨full.reaches, _, full.file, rfl⟩) ?_
  have sameThere := Disk.destination_of_current full.alters.current path
  have keeps := full.alters.keeps noTemporary
  have replaces := (Change.apply_replace_file_eq_ok_iff full.file).mpr
    ⟨full.reaches, keeps.reaches reaches, by rw [isMovable_temporaryBeside, movable]; rfl, ?_, rfl⟩
  · refine completes_perform replaces ?_
    rw [if_neg (Disk.temporary_ne named n)]
    simp only [Disk.destination_put, Disk.erase_put]
    exact Disk.length_put_erase_le
  · rw [sameThere, full.alters.elsewhere (Ne.symm (Disk.temporary_ne named n))]
    exact noDirectory

/-- A file is written where its directory is there. -/
theorem completes_atomicWrite_of_reaches (text : String) (reaches : disk.Reaches path)
    (movable : Disk.isMovable path = true)
    (noDirectory : disk.node? (disk.destination path) ≠ some .directory)
    (temporary : ∃ n, Disk.Fits (temporaryBeside path n)) (room : disk.nodes.length < serials) :
    (atomicWrite path text).Completes disk fun _ later =>
      later.nodes.length ≤
        (disk.put (disk.destination path) (.file (.text text))).nodes.length := by
  have named := Path.parts_ne_nil_of_isMovable movable
  obtain ⟨reachesParent, directory⟩ := reaches.parent named
  rw [atomicWrite_eq]
  refine (completes_ensureDirectory_of_directory path.parts.length reachesParent directory).bind ?_
  rintro _ _ rfl
  exact completes_writeBeside text reaches movable noDirectory temporary room

/-- A file is written with the directories that are missing above it. -/
theorem completes_atomicWrite (text : String) (writable : disk.Writable path) :
    (atomicWrite path text).Completes disk fun _ later =>
      later.nodes.length ≤ disk.nodes.length + path.parts.length + 1 := by
  have named := Path.parts_ne_nil_of_isMovable writable.movable
  have fits := Disk.fits_of_temporary named writable.temporary
  have shorter : path.parent.parts.length + 1 = path.parts.length := by
    have some_ := List.length_pos_iff.mpr named
    simp only [Path.parent, List.length_dropLast]
    omega
  have above := (completes_ensureDirectory writable.clear (fits.parent named) (by omega)).leads
    (leads_ensureDirectory path.parts.length path.parent)
  rw [atomicWrite_eq]
  refine above.bind ?_
  rintro _ between ⟨⟨furnished, reachesParent, directory⟩, few⟩
  have room := writable.room
  have reaches : between.Reaches path := by
    rw [Path.eq_concat named] at fits ⊢
    rw [← Disk.destination_of_current furnished.current] at directory
    exact reachesParent.child directory fits
  have noDirectory : between.node? (between.destination path) ≠ some .directory := by
    rw [Disk.destination_of_current furnished.current]
    rcases furnished.node (disk.destination path) with same | ⟨_, _, onWay⟩
    · rw [same]
      exact writable.noDirectory
    · exact absurd onWay writable.aside
  refine (completes_writeBeside text reaches writable.movable noDirectory writable.temporary
    (by omega)).mono fun _ later more => ?_
  have put := between.length_put (between.destination path) (.file (.text text))
  omega

end Work

end AgentFlow
