import AgentFlow.Proofs.Agent.Replay
import AgentFlow.Proofs.Files.Writing

/-!
# A recovery that comes to its end

If a promotion can be done at all, it can be completed from every stage at which it was
stopped.  The disk on which it was done without a stop shows that nothing stands in the
way: where directories are needed there are directories or nothing.
-/

namespace AgentFlow

open AgentFlow.Text

namespace Undertaking

variable {u : Undertaking} {view : View} {disk complete : Disk} {location : Location}

/-! ## What a promotion that is done shows -/

/-- Where the directories of the registry and of the definition are. -/
def OnWays (u : Undertaking) (location : Location) : Prop :=
  u.before.OnWay u.store.registryPath.parent location ∨
    u.before.OnWay u.promotion.target.parent location

theorem Finished.directory_of_onWays (finished : u.Finished complete)
    (onWays : u.OnWays location) : complete.node? location = some .directory := by
  obtain ⟨table, _, stands, _⟩ := finished
  rcases onWays with onWay | onWay
  · rw [← onWay_before stands.grown] at onWay
    exact Store.registry_paved u.journalPath stands.journal location onWay
  · rw [← onWay_before stands.grown] at onWay
    exact stands.target.directory_of_onWay target_named onWay

theorem Finished.journalPlace (finished : u.Finished complete) :
    complete.node? u.journalPlace ≠ some .directory := by
  obtain ⟨_, _, _, gone⟩ := finished
  exact Disk.noDirectory_of_none gone

theorem Finished.registryPlace (finished : u.Finished complete) :
    complete.node? u.registryPlace ≠ some .directory := by
  obtain ⟨table, _, stands, _⟩ := finished
  have written : u.finished table u.registryPlace =
      some (.file (.text (u.registered table).fileText)) := by
    rw [Undertaking.finished, View.set_elsewhere (Ne.symm u.journalPlace_ne_registryPlace),
      tabled, View.set_here]
  exact Disk.noDirectory_of_file (stands.grown.node?_of_some written)

theorem Finished.targetPlace (finished : u.Finished complete) :
    complete.node? u.targetPlace ≠ some .directory := by
  obtain ⟨table, loads, stands, _⟩ := finished
  obtain ⟨content, atTarget⟩ := (Replayable.afterTable loads).targetPlace
  have moved : u.finished table u.targetPlace = some (.file content) := by
    rw [Undertaking.finished, View.set_elsewhere (Ne.symm u.journalPlace_ne_targetPlace),
      atTarget]
  exact Disk.noDirectory_of_file (stands.grown.node?_of_some moved)

/-- No stage has a directory that was not there before. -/
theorem before_of_finished_directory {table : Registry}
    (directory : u.finished table location = some .directory) :
    u.before.node? location = some .directory := by
  simp only [finished, tabled, moved, journalled, View.set] at directory
  repeat' split at directory
  all_goals first
    | cases directory
    | exact directory

theorem Finished.before_of_onWays (finished : u.Finished complete)
    (onWays : u.OnWays location) :
    u.before.node? location = none ∨ u.before.node? location = some .directory := by
  have directory := finished.directory_of_onWays onWays
  obtain ⟨table, _, stands, _⟩ := finished
  rcases stands.grown.node location with same | ⟨_, free, _⟩
  · rw [directory] at same
    exact Or.inr (before_of_finished_directory (Eq.symm same))
  · exact Or.inl free

/-- Where no directory is needed and no temporary file is written, nothing is left over. -/
theorem Finished.node?_eq (finished : u.Finished complete) (grown : u.Grown view disk)
    (noDirectory : complete.node? location ≠ some .directory)
    (lasting : ∀ n, location ≠ u.before.destination (Work.temporaryBeside u.journal n) ∧
      location ≠ u.before.destination (Work.temporaryBeside u.store.registryPath n)) :
    disk.node? location = view location := by
  rcases grown.node location with same | ⟨free, _, leftover⟩
  · exact same
  · cases node : disk.node? location with
    | none => exact Eq.symm free
    | some kind =>
        rw [node] at leftover
        cases kind with
        | directory => exact absurd (finished.directory_of_onWays leftover) noDirectory
        | file content =>
            obtain ⟨n, beside | beside⟩ := leftover
            · exact absurd beside (lasting n).1
            · exact absurd beside (lasting n).2

theorem Finished.node?_registryPlace (finished : u.Finished complete)
    (grown : u.Grown view disk) : disk.node? u.registryPlace = view u.registryPlace :=
  finished.node?_eq grown finished.registryPlace fun n =>
    ⟨u.registryPlace_ne_journal_temporary n, u.registryPlace_ne_temporary n⟩

theorem Finished.node?_journalPlace (finished : u.Finished complete)
    (grown : u.Grown view disk) : disk.node? u.journalPlace = view u.journalPlace :=
  finished.node?_eq grown finished.journalPlace fun n =>
    ⟨u.journalPlace_ne_temporary u.journal n, u.journalPlace_ne_temporary _ n⟩

/-! ## Moving the definition -/

theorem Journalled.clear (journalled : u.Journalled disk) (finished : u.Finished complete) :
    disk.Clear u.promotion.target.parent := by
  intro location onWay
  rw [onWay_before journalled.grown] at onWay
  cases node : disk.node? location with
  | none => exact Or.inl rfl
  | some kind =>
      cases kind with
      | directory => exact Or.inr rfl
      | file content =>
          have file := journalled.files location content node
          have directory := finished.directory_of_onWays (Or.inr onWay)
          have elsewhere : location ≠ u.journalPlace := by
            rintro rfl
            exact finished.journalPlace directory
          rw [Undertaking.journalled, View.set_elsewhere elsewhere] at file
          rcases finished.before_of_onWays (Or.inr onWay) with free | stood
          · rw [free] at file
            cases file
          · rw [stood] at file
            cases file

theorem Journalled.targetPlace (journalled : u.Journalled disk) (finished : u.Finished complete) :
    disk.node? u.targetPlace ≠ some .directory := by
  intro directory
  rcases journalled.grown.node u.targetPlace with same | ⟨_, _, leftover⟩
  · rw [directory, Undertaking.journalled,
      View.set_elsewhere (Ne.symm u.journalPlace_ne_targetPlace)] at same
    obtain ⟨_, _, stands, _⟩ := id finished
    exact finished.targetPlace (stands.grown.keeps.directory _ (Eq.symm same))
  · rw [directory] at leftover
    exact finished.targetPlace (finished.directory_of_onWays leftover)

theorem isMovable_source_target :
    (Disk.isMovable u.promotion.source && Disk.isMovable u.promotion.target) = true := by
  rw [u.intends.source, u.intends.target, Store.temporaryPath, Store.definedPath,
    Disk.isMovable_definition u.intends.nameIsIdentifier,
    Disk.isMovable_definition u.intends.targetIsIdentifier]
  rfl

theorem Journalled.completes_move (journalled : u.Journalled disk)
    (finished : u.Finished complete) :
    (Work.moveFile u.promotion.source u.promotion.target).Completes disk fun _ later =>
      u.Replaying later ∧
        later.nodes.length ≤ disk.nodes.length + u.promotion.target.parts.length + 1 := by
  have sameCurrent := journalled.grown.keeps.current
  have fits : Disk.Fits u.promotion.target := by
    obtain ⟨_, _, stands, _⟩ := id finished
    exact stands.target.fits
  have file : disk.node? (disk.destination u.promotion.source) = some (.file u.content) := by
    rw [Disk.destination_of_current sameCurrent]
    exact journalled.grown.node?_of_some u.journalled_sourcePlace
  have noDirectory : disk.node? (disk.destination u.promotion.target) ≠ some .directory := by
    rw [Disk.destination_of_current sameCurrent]
    exact journalled.targetPlace finished
  have aside : ¬disk.OnWay u.promotion.target.parent (disk.destination u.promotion.target) := by
    rw [Disk.destination_of_current sameCurrent, onWay_before journalled.grown]
    exact fun onWay => finished.targetPlace (finished.directory_of_onWays (Or.inr onWay))
  exact (Work.completes_moveFile (journalled.grown.keeps.reaches u.reaches) file fits
    (journalled.clear finished) isMovable_source_target noDirectory aside).leads
      journalled.leads_move

theorem Replaying.completes_move (replaying : u.Replaying disk)
    (isThere : disk.pathExists u.promotion.source = .ok true) :
    (Work.moveFile u.promotion.source u.promotion.target).Completes disk fun _ later =>
      u.Replaying later ∧
        later.nodes.length ≤ disk.nodes.length + u.promotion.target.parts.length + 1 := by
  have ⟨view, replayable, stands⟩ := replaying
  have sameCurrent := stands.grown.keeps.current
  obtain ⟨content, atTarget⟩ := replayable.targetPlace
  have file := stands.file (stands.sourcePlace_eq replayable isThere) atTarget
  have still : disk.node? (disk.destination u.promotion.target) = some (.file content) := by
    rw [Disk.destination_of_current sameCurrent]
    exact stands.grown.node?_of_some atTarget
  have clear : disk.Clear u.promotion.target.parent :=
    fun location onWay => Or.inr (stands.target_paved location onWay)
  refine (Work.completes_moveFile (stands.grown.keeps.reaches u.reaches) file stands.target.fits
    clear isMovable_source_target (Disk.noDirectory_of_file still) ?_).leads
      (replaying.leads_move isThere)
  intro onWay
  exact Disk.noDirectory_of_file still (stands.target_paved _ onWay)

/-! ## Writing the table -/

/-- At every stage the table can be loaded, and with the new entry it is the same. -/
theorem Replayable.loaded (replayable : u.Replayable view) {first : Registry}
    (loads : u.Loads first) : ∃ table,
      Registry.ofNode u.store.registryPath (view u.registryPlace) = .ok table ∧
        u.registered table = u.registered first := by
  cases replayable with
  | afterMove => exact ⟨first, loads.loaded, rfl⟩
  | @afterTable other otherLoads =>
      obtain rfl := loads.unique otherLoads
      refine ⟨u.registered first, ?_, Registry.insert_insert first _ _⟩
      rw [tabled, View.set_here, loads.reloaded]

theorem Replaying.completes_enroll (replaying : u.Replaying disk)
    (finished : u.Finished complete) (room : disk.nodes.length < Work.serials) :
    (u.store.enroll u.promotion).Completes disk fun _ later => u.Tabled later ∧ True := by
  refine Work.Completes.leads ?_ (leads_enroll replaying)
  obtain ⟨view, replayable, stands⟩ := replaying
  obtain ⟨first, loads, _⟩ := id finished
  obtain ⟨table, loaded, same⟩ := replayable.loaded loads
  have node := finished.node?_registryPlace stands.grown
  have sameCurrent := stands.grown.keeps.current
  have reaches := Store.registry_reaches u.journalPath stands.journal
  have isLoaded : u.store.load disk = .ok table := by
    rw [Store.load_of_reaches reaches, Disk.destination_of_current sameCurrent]
    exact (congrArg (Registry.ofNode u.store.registryPath) node).trans loaded
  have short : (u.registered table).toDocument.longInteger? = none := same ▸ loads.short
  have isText : (u.registered table).toDocument.fileText? = .ok (u.registered table).fileText := by
    unfold Json.Document.fileText?
    rw [short]
    rfl
  refine Work.completes_ask_bind isLoaded ?_
  rw [Promotion.register_of_named u.told.named]
  refine Work.completes_ofExcept_bind rfl ?_
  refine Work.completes_ofExcept_bind (mapError_eq_ok_iff.mpr isText) ?_
  refine .mapFault ((Work.completes_atomicWrite_of_reaches _ reaches loads.movable ?_
    loads.temporary room).mono fun _ _ _ => trivial)
  rw [Disk.destination_of_current sameCurrent]
  intro directory
  rw [← node, show u.registryPlace = u.before.destination u.store.registryPath from rfl,
    directory] at loaded
  cases loaded

/-! ## The whole recovery -/

/-- The changes of a promotion can be completed from any stage. -/
theorem Pending.completes_applyPromotion (pending : u.Pending disk)
    (finished : u.Finished complete)
    (room : disk.nodes.length + u.promotion.target.parts.length + 1 < Work.serials) :
    (u.store.applyPromotion u.promotion).Completes disk fun _ => u.Tabled := by
  have enrolls {later : Disk} (replaying : u.Replaying later)
      (few : later.nodes.length ≤ disk.nodes.length + u.promotion.target.parts.length + 1) :
      (u.store.enroll u.promotion).Completes later fun _ => u.Tabled :=
    (replaying.completes_enroll finished (by omega)).mono fun _ _ => And.left
  have asked : ∃ isThere, disk.pathExists u.promotion.source = .ok isThere := by
    obtain ⟨view, grown, _⟩ := pending.grown
    exact ⟨_, Disk.pathExists_of_reaches (grown.keeps.reaches u.reaches)⟩
  obtain ⟨isThere, exists_⟩ := asked
  rw [Store.applyPromotion_eq]
  refine Work.completes_ask_bind (Store.asks_eq_ok_iff.mpr exists_) ?_
  split
  · rename_i yes
    subst yes
    have moves : (Work.moveFile u.promotion.source u.promotion.target).Completes disk
        fun _ later => u.Replaying later ∧
          later.nodes.length ≤ disk.nodes.length + u.promotion.target.parts.length + 1 := by
      rcases pending with journalled | replaying
      · exact journalled.completes_move finished
      · exact replaying.completes_move exists_
    exact moves.mapFault.bind fun _ later ⟨replaying, few⟩ => enrolls replaying few
  · rename_i no
    rcases pending with journalled | replaying
    · exact absurd (Except.ok.inj (exists_.symm.trans journalled.isThere)) no
    · exact enrolls replaying (by omega)

theorem Tabled.completes_clearJournal (tabled : u.Tabled disk) :
    u.store.clearJournal.Completes disk fun _ _ => True := by
  have pending := tabled.replaying.pending
  rw [Store.clearJournal_eq u.journalPath]
  exact (Work.completes_removeIfThere pending.journal_reaches pending.journal_written).mapFault

/-- A recovery that meets no mishap completes the promotion of the journal. -/
theorem Pending.completes_recover (pending : u.Pending disk) (finished : u.Finished complete)
    (room : disk.nodes.length + u.promotion.target.parts.length + 1 < Work.serials) :
    u.store.recover.Completes disk fun _ _ => True := by
  have resumes : (u.store.resume u.promotion).Completes disk fun _ _ => True := by
    refine Work.completes_ask_bind pending.definitionRemains ?_
    rw [if_neg (by decide)]
    refine (pending.completes_applyPromotion finished room).bind fun _ later tabled => ?_
    refine tabled.completes_clearJournal.bind fun _ last _ => ?_
    exact Work.completes_tell_bind (Work.completes_pure trivial)
  rintro machine rfl
  rw [Store.recover_of_read u.journalPath pending.read]
  exact resumes machine rfl

end Undertaking

end AgentFlow
