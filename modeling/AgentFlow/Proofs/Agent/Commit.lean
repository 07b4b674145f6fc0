import AgentFlow.Proofs.Agent.Milestones

/-!
# Promotions that can be carried out

Whether a promotion that was decided on is carried out depends on what stands where its journal
goes and on the ways to the journal and to the definition.  Where nothing stands in the way it is
done as a whole; otherwise it fails before its definition is moved, and leaves no more than a
journal and directories.
-/

namespace AgentFlow

open AgentFlow.Text

namespace Disk

variable {ways : Location → Prop} {disk later : Disk} {location : Location}

/-- A journal and a definition can be put where they go. -/
structure Prepared (disk : Disk) (journal target : Path) : Prop where
  movable : isMovable journal = true
  clear : disk.Clear journal.parent
  aside : ¬disk.OnWay journal.parent (disk.destination journal)
  noDirectory : disk.node? (disk.destination journal) ≠ some .directory
  temporary : ∃ n, Fits (Work.temporaryBeside journal n)
  fits : Fits target
  clearTarget : disk.Clear target.parent
  beside : ¬disk.OnWay target.parent (disk.destination journal)

theorem Furnished.vacant (furnished : Furnished ways disk later)
    (vacant : later.node? location = none ∨ later.node? location = some .directory) :
    disk.node? location = none ∨ disk.node? location = some .directory := by
  rcases furnished.node location with same | ⟨free, _⟩
  · rwa [same] at vacant
  · exact .inl free

/-- A journal that was written and a definition that was moved show that nothing stood in the
way. -/
theorem prepared_of_moved {waysLater : Location → Prop} {journal source target : Path}
    {text : String} {content : Content} {between journalled paved moved : Disk} (named : target.parts ≠ [])
    (furnished : Furnished ways disk between)
    (written : Work.Written journal text between journalled)
    (furnishedLater : Furnished waysLater journalled paved)
    (isMoved : Work.Moved source target content paved moved) :
    disk.Prepared journal target := by
  have current : journalled.current = disk.current :=
    written.alters.current.trans furnished.current
  have currentMoved : moved.current = disk.current :=
    isMoved.current.trans (furnishedLater.current.trans current)
  have journalNamed := Path.parts_ne_nil_of_isMovable written.movable
  have file : journalled.node? (disk.destination journal) = some (.file (.text text)) := by
    rw [← destination_of_current furnished.current, written.alters.here]
  have vacantBefore {location : Location}
      (vacant : journalled.node? location = none ∨ journalled.node? location = some .directory) :
      location ≠ disk.destination journal ∧
        (disk.node? location = none ∨ disk.node? location = some .directory) := by
    have differs : location ≠ disk.destination journal := by
      rintro rfl
      rw [file] at vacant
      rcases vacant with free | directory
      · cases free
      · cases directory
    rw [← destination_of_current furnished.current] at differs
    rw [written.alters.elsewhere differs] at vacant
    rw [destination_of_current furnished.current] at differs
    exact ⟨differs, furnished.vacant vacant⟩
  have journalWay {location : Location} (onWay : disk.OnWay journal.parent location) :=
    vacantBefore (.inr (written.reaches.directory_of_onWay journalNamed
      ((onWay_of_current current).symm ▸ onWay)))
  have targetWay {location : Location} (onWay : disk.OnWay target.parent location) :
      location ≠ disk.destination journal ∧
        (disk.node? location = none ∨ disk.node? location = some .directory) := by
    have directory := isMoved.reaches.directory_of_onWay named
      ((onWay_of_current currentMoved).symm ▸ onWay)
    rw [isMoved.node] at directory
    split at directory
    · cases directory
    · split at directory
      · cases directory
      · exact vacantBefore (furnishedLater.vacant (.inr directory))
  refine ⟨written.movable, fun _ onWay => (journalWay onWay).2,
    fun onWay => (journalWay onWay).1 rfl, ?_, written.temporary, isMoved.reaches.fits,
    fun _ onWay => (targetWay onWay).2, fun onWay => (targetWay onWay).1 rfl⟩
  intro directory
  apply written.noDirectory
  rw [destination_of_current furnished.current]
  exact furnished.keeps.directory _ directory

end Disk

namespace Store

variable {store : Store} {disk later : Disk} {touched : Location → Prop} {name : String}
  {table : Registry} {journal : Path} {promotion : Promotion}

/-! ## What stays prepared -/

/-- Work that fails and leaves no more than a journal and directories. -/
def spoiled {ε α : Type} (store : Store) (journal : Path) (disk : Disk) : Outcomes ε α where
  done := fun _ _ => False
  failed := fun _ later => store.Reshapes (· = disk.destination journal) disk later
  stopped := fun _ => True

/-- Where something stands in the way, a promotion fails and leaves its definition alone. -/
theorem leads_commit_unprepared (journalPath : store.journalPath = .ok journal)
    (intends : store.Intends name disk promotion)
    (unprepared : ¬disk.Prepared journal promotion.target) :
    (store.commit name promotion).Leads disk (store.spoiled journal disk) := by
  have named : promotion.target.parts ≠ [] := by
    rw [intends.target]
    exact named_definedPath intends.targetIsIdentifier
  obtain ⟨_, content, file⟩ := Disk.isFile_eq_true_iff.mp intends.isFile
  unfold commit
  refine (leads_writeJournal journalPath promotion).bind ?_
    (fun _ later furnished => .ofFurnished furnished fun _ => .inr) fun _ _ => trivial
  rintro _ later ⟨between, furnished, written⟩
  have journalled := Journalled.ofWritten journalPath furnished written
  have reshapes := journalled.reshapes
  have current := reshapes.leaves.keeps.current
  have still := journalled.still journalPath intends file
  have found := journalled.isThere journalPath intends
  have moves : ((Work.moveFile promotion.source promotion.target).mapFault
      (wrapAccess fun fault => .registry (.unmoved promotion.source fault)
        promotion.target)).Leads later (store.spoiled journal disk) := by
    refine .mapFault ((Work.leads_moveFile still).mono ?_ ?_ fun _ _ => trivial)
    · rintro _ moved ⟨paved, furnishedLater, isMoved⟩
      rw [← journal_parent journalPath] at furnished
      exact unprepared (Disk.prepared_of_moved named furnished written furnishedLater isMoved)
    · intro _ later furnishedLater
      refine reshapes.trans (.ofFurnished furnishedLater fun location onWay => .inl ?_)
      rwa [intends.parent_target, Disk.onWay_of_current current] at onWay
  have applies : (store.applyPromotion promotion).Leads later (store.spoiled journal disk) := by
    rw [applyPromotion_eq]
    refine Work.leads_ask_bind (fun isThere asked => ?_) fun _ _ => reshapes
    rw [asks_eq_ok_iff, found] at asked
    obtain rfl := Except.ok.inj asked
    rw [if_pos rfl]
    exact moves.bind (fun _ _ => False.elim) (fun _ _ => id) fun _ => id
  exact applies.bind (fun _ _ => False.elim) (fun _ _ => id) fun _ => id

/-! ## Promotions that are carried out -/

/-- How many nodes an operation may add. -/
def growth (store : Store) : Nat :=
  4 * store.registryPath.parts.length + 2 * store.agentsDir.parts.length + 20

theorem journal_parts_length (journalPath : store.journalPath = .ok journal) :
    journal.parts.length = store.registryPath.parts.length := by
  obtain ⟨named, shape⟩ := journal_eq journalPath
  have some_ := List.length_pos_iff.mpr named
  rw [shape, List.length_append, List.length_dropLast, List.length_singleton]
  omega

theorem completes_writeJournal (journalPath : store.journalPath = .ok journal)
    (prepared : disk.Prepared journal promotion.target)
    (room : disk.nodes.length + store.registryPath.parts.length + 1 < Work.serials) :
    (store.writeJournal promotion).Completes disk fun _ later =>
      later.nodes.length ≤ disk.nodes.length + store.registryPath.parts.length + 1 ∧
        store.Journalled journal disk later := by
  have sameLength := journal_parts_length journalPath
  rw [← sameLength] at room ⊢
  have writable : disk.Writable journal := ⟨prepared.movable, prepared.clear, prepared.aside,
    prepared.noDirectory, prepared.temporary, room⟩
  have writes : (store.writeJournal promotion).Completes disk fun _ later =>
      later.nodes.length ≤ disk.nodes.length + journal.parts.length + 1 := by
    rw [writeJournal_eq journalPath]
    exact (Work.completes_atomicWrite _ writable).mapFault
  refine (writes.leads (leads_writeJournal journalPath promotion)).mono ?_
  rintro _ later ⟨⟨between, furnished, written⟩, few⟩
  exact ⟨few, .ofWritten journalPath furnished written⟩

theorem completes_carry {content : Content} {between : Disk} (tidy : store.Tidy disk)
    (journalPath : store.journalPath = .ok journal) (intends : store.Intends name disk promotion)
    (prepared : disk.Prepared journal promotion.target)
    (file : disk.node? (disk.destination promotion.source) = some (.file content))
    (journalled : store.Journalled journal disk between) :
    (Work.moveFile promotion.source promotion.target).Completes between fun _ later =>
      later.nodes.length ≤ between.nodes.length + store.agentsDir.parts.length + 2 ∧
        store.Underway journal promotion content disk later := by
  have reshapes := journalled.reshapes
  have keeps := reshapes.leaves.keeps
  have current := keeps.current
  have partsLength := intends.length_target
  have still := journalled.still journalPath intends file
  have free : between.node? (between.destination promotion.target) = none := by
    rw [Disk.destination_of_current current, reshapes.node?_eq
      (intends.target_ne_journal journalPath) (intends.target_aside tidy), intends.target_free tidy]
  have clear : between.Clear promotion.target.parent := by
    refine (reshapes.clear_iff ?_).mpr prepared.clearTarget
    rintro _ onWay rfl
    exact prepared.beside onWay
  have aside : ¬between.OnWay promotion.target.parent
      (between.destination promotion.target) := by
    rw [Disk.onWay_of_current current, Disk.destination_of_current current,
      intends.parent_target]
    exact fun onWay => intends.target_aside tidy (.inl onWay)
  have movable : (Disk.isMovable promotion.source && Disk.isMovable promotion.target) = true := by
    rw [intends.source, intends.target, temporaryPath, definedPath,
      Disk.isMovable_definition intends.nameIsIdentifier,
      Disk.isMovable_definition intends.targetIsIdentifier]
    rfl
  have reachesSource := keeps.reaches (Disk.isFile_eq_true_iff.mp intends.isFile).1
  refine ((Work.completes_moveFile reachesSource still prepared.fits clear movable
    (Disk.noDirectory_of_none free) aside).leads (Work.leads_moveFile still)).mono ?_
  rintro _ later ⟨⟨paved, furnished, moved⟩, few⟩
  exact ⟨by omega, journalled.moved journalPath intends (intends.separate tidy) furnished moved⟩

theorem fits_registry_temporary (journalPath : store.journalPath = .ok journal) {n : Nat}
    (fits : Disk.Fits (Work.temporaryBeside journal n)) :
    Disk.Fits (Work.temporaryBeside store.registryPath n) := by
  obtain ⟨slashes, above⟩ := Path.mk.inj (journal_parent journalPath)
  rw [Work.temporaryBeside_eq] at fits ⊢
  rw [slashes, above] at fits
  have noNul := fits.noNul
  refine fits.sibling ?_ ?_
  · simp only [Path.temporaryName, journal_name journalPath, String.utf8ByteSize_append]
    omega
  · simp only [Path.hasNul, List.any_append, List.any_cons, List.any_nil, Bool.or_false,
      Bool.or_eq_false_iff, Path.temporaryName, journal_name journalPath, String.toList_append,
      List.contains_eq_mem, List.mem_append, decide_eq_false_iff_not, not_or] at noNul ⊢
    obtain ⟨_, ⟨⟨⟨dot, name, _⟩, nextDot⟩, digits⟩, ending⟩ := noNul
    exact ⟨⟨⟨⟨dot, name⟩, nextDot⟩, digits⟩, ending⟩

/-- The registry that is loaded while a promotion is under way is the one that was there. -/
theorem Underway.load_eq {content : Content} (tidy : store.Tidy disk)
    (journalPath : store.journalPath = .ok journal) (intends : store.Intends name disk promotion)
    (underway : store.Underway journal promotion content disk later) :
    store.load later = store.load disk :=
  tidy.load_eq underway.reshapes
    (Underway.registry_untouched journalPath intends (intends.separate tidy))

theorem completes_enroll {content : Content} (tidy : store.Tidy disk)
    (journalPath : store.journalPath = .ok journal) (intends : store.Intends name disk promotion)
    (loaded : store.load disk = .ok table) (temporary : ∃ n, Disk.Fits (Work.temporaryBeside journal n))
    (underway : store.Underway journal promotion content disk later)
    (room : later.nodes.length + store.registryPath.parts.length + 1 < Work.serials) :
    (store.enroll promotion).Completes later fun _ last =>
      store.Enrolled journal promotion content table disk last := by
  have keeps := underway.reshapes.leaves.keeps
  have current := keeps.current
  have reaches := registry_reaches journalPath underway.reachesJournal
  have loadedLater : store.load later = .ok table := by
    rw [underway.load_eq tidy journalPath intends, loaded]
  have writable : later.Writable store.registryPath := by
    obtain ⟨n, fits⟩ := temporary
    refine ⟨tidy.named, fun location onWay => .inr ?_, ?_, ?_, ⟨n, ?_⟩, room⟩
    · exact registry_paved journalPath underway.reachesJournal location onWay
    · rw [Disk.onWay_of_current current, Disk.destination_of_current current]
      exact fun onWay => tidy.registry_aside (.inr onWay)
    · intro directory
      rw [load_of_reaches reaches, directory] at loadedLater
      cases loadedLater
    · exact fits_registry_temporary journalPath fits
  have wellFormed := (wellFormed_of_load loaded).insert intends.isFor
  have countable : (table.insert promotion.entry.agentName promotion.entry).Countable :=
    (countable_of_load loaded).insert intends.isCountable
  unfold enroll
  refine Work.completes_ask_bind loadedLater ?_
  rw [Promotion.register_of_named intends.named]
  refine Work.completes_ofExcept_bind rfl ?_
  refine (((completes_save countable writable).leads (leads_save _)).leads
    (leads_save_keeps wellFormed)).mono ?_
  rintro _ last ⟨keepsTable, ⟨_, between, furnished, written⟩, _⟩
  exact underway.saved journalPath intends (intends.separate tidy) furnished written keepsTable

/-- A promotion that is prepared is carried out. -/
theorem completes_commit {content : Content} (tidy : store.Tidy disk)
    (journalPath : store.journalPath = .ok journal) (intends : store.Intends name disk promotion)
    (file : disk.node? (disk.destination promotion.source) = some (.file content))
    (loaded : store.load disk = .ok table) (prepared : disk.Prepared journal promotion.target)
    (room : disk.nodes.length + store.growth < Work.serials) :
    (store.commit name promotion).Completes disk fun done later =>
      done = true ∧ store.Committed journal promotion content table disk later := by
  have growth_eq : store.growth =
    4 * store.registryPath.parts.length + 2 * store.agentsDir.parts.length + 20 := rfl
  unfold commit
  refine (completes_writeJournal journalPath prepared (by omega)).bind ?_
  rintro _ between ⟨few, journalled⟩
  have applies : (store.applyPromotion promotion).Completes between fun _ later =>
      store.Enrolled journal promotion content table disk later := by
    rw [applyPromotion_eq]
    refine Work.completes_ask_bind
      (asks_eq_ok_iff.mpr (journalled.isThere journalPath intends)) ?_
    rw [if_pos rfl]
    refine (completes_carry tidy journalPath intends prepared file journalled).mapFault.bind ?_
    rintro _ moved ⟨fewMoved, underway⟩
    exact completes_enroll tidy journalPath intends loaded prepared.temporary underway (by omega)
  refine applies.bind fun _ last enrolled => ?_
  have current := enrolled.reshapes.leaves.keeps.current
  obtain ⟨text, written⟩ := enrolled.written
  have clears : store.clearJournal.Completes last fun _ later =>
      Disk.Alters (disk.destination journal) none last later := by
    rw [clearJournal_eq journalPath]
    rw [← Disk.destination_of_current current] at written ⊢
    exact .mapFault (((Work.completes_removeIfThere enrolled.reachesJournal written).leads
      (Work.leads_removeIfThere enrolled.reachesJournal written)).mono fun _ _ => And.left)
  refine clears.bind fun _ later alters => ?_
  exact Work.completes_tell_bind
    (Work.completes_pure ⟨rfl, enrolled.committed journalPath intends alters⟩)

/-! ## A small disk -/

end Store

end AgentFlow
