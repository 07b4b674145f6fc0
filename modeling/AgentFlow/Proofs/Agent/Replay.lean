import AgentFlow.Proofs.Agent.Saving
import AgentFlow.Proofs.Agent.Stage

/-!
# Replaying a promotion

What a promotion does after its journal is written can be done again from every stage.
Completing it from its journal therefore never leads back: it ends with everything done,
or at a stage from which it can be completed again.
-/

namespace AgentFlow

open AgentFlow.Text

namespace Store

/-- Load the table and write it with the entry of a promotion. -/
def enroll (store : Store) (promotion : Promotion) : Work Error Unit := do
  let registry ← Work.ask store.load
  let registered ← Work.ofExcept
    ((promotion.register registry).mapError fun fault => .unexpected (.value fault))
  store.save registered

theorem writeJournal_eq {store : Store} {journal : Path}
    (journalPath : store.journalPath = .ok journal) (promotion : Promotion) :
    store.writeJournal promotion =
      (Work.atomicWrite journal promotion.toDocument.fileText).mapFault
        (wrapAccess fun fault => .registry (.unwritableJournal fault) journal) := by
  unfold writeJournal
  rw [journalPath]
  rfl

/-- The journal is written as a whole or not at all; it lies beside the registry. -/
theorem leads_writeJournal {store : Store} {journal : Path} {disk : Disk}
    (journalPath : store.journalPath = .ok journal) (promotion : Promotion) :
    (store.writeJournal promotion).Leads disk
      ⟨fun _ later => ∃ between,
          Disk.Furnished (disk.OnWay store.registryPath.parent) disk between ∧
            Work.Written journal promotion.toDocument.fileText between later,
        fun _ later => Disk.Furnished (disk.OnWay store.registryPath.parent) disk later,
        fun later => ∃ between,
          Disk.Furnished (disk.OnWay store.registryPath.parent) disk between ∧
            Work.Littered journal between later⟩ := by
  rw [writeJournal_eq journalPath, ← journal_parent journalPath]
  exact .mapFault (Work.leads_atomicWrite disk _ _)

theorem clearJournal_eq {store : Store} {journal : Path}
    (journalPath : store.journalPath = .ok journal) :
    store.clearJournal = (Work.removeIfThere journal).mapFault .unexpected := by
  unfold clearJournal
  rw [journalPath]
  rfl

theorem applyPromotion_eq (store : Store) (promotion : Promotion) :
    store.applyPromotion promotion =
      (Work.ask fun disk => asks (disk.pathExists promotion.source)) >>= fun isThere =>
        if isThere = true then
          (Work.moveFile promotion.source promotion.target).mapFault
            (wrapAccess fun fault => .registry (.unmoved promotion.source fault)
              promotion.target) >>= fun _ => store.enroll promotion
        else store.enroll promotion :=
  rfl

/-- What enrolling leads to: the table is saved with the entry, once it is loaded. -/
theorem leads_enroll {store : Store} {promotion : Promotion} {disk : Disk}
    {after : Outcomes Error Unit} (named : promotion.name = .text promotion.entry.agentName)
    (failed : ∀ e, after.failed e disk)
    (saves : ∀ table, store.load disk = .ok table →
      (store.save (table.insert promotion.entry.agentName promotion.entry)).Leads disk after) :
    (store.enroll promotion).Leads disk after := by
  refine Work.leads_ask_bind (fun table loaded => ?_) fun e _ => failed e
  rw [Promotion.register_of_named named]
  refine Work.leads_ofExcept_bind ?_ fun e _ => failed e
  rintro _ ⟨⟩
  exact saves table loaded

end Store

namespace Undertaking

variable (u : Undertaking)

/-- A disk that is as a view tells, with the directories that are needed to go on. -/
structure StandsAt (view : View) (disk : Disk) : Prop where
  grown : u.Grown view disk
  journal : disk.Reaches u.journal
  target : disk.Reaches u.promotion.target

/-- The journal is there, and the definition is where it came from. -/
structure Journalled (disk : Disk) : Prop where
  grown : u.Grown u.journalled disk
  journal : disk.Reaches u.journal
  files : ∀ location content, disk.node? location = some (.file content) →
    u.journalled location = some (.file content)

/-- The journal is there, and the definition is moved. -/
def Replaying (disk : Disk) : Prop := ∃ view, u.Replayable view ∧ u.StandsAt view disk

/-- The journal is there, and the table is written. -/
def Tabled (disk : Disk) : Prop := ∃ table, u.Loads table ∧ u.StandsAt (u.tabled table) disk

/-- The journal is there. -/
def Pending (disk : Disk) : Prop := u.Journalled disk ∨ u.Replaying disk

/-- Everything is done. -/
def Finished (disk : Disk) : Prop :=
  ∃ table, u.Loads table ∧ u.StandsAt (u.finished table) disk ∧
    disk.node? u.journalPlace = none

variable {u} {view : View} {disk later : Disk}

theorem StandsAt.next (stands : u.StandsAt view disk) (keeps : disk.Keeps later) {other : View}
    (grown : u.Grown other later) : u.StandsAt other later :=
  ⟨grown, keeps.reaches stands.journal, keeps.reaches stands.target⟩

theorem Tabled.replaying (tabled : u.Tabled disk) : u.Replaying disk := by
  obtain ⟨table, loads, stands⟩ := tabled
  exact ⟨u.tabled table, .afterTable loads, stands⟩

theorem Replaying.pending (replaying : u.Replaying disk) : u.Pending disk := Or.inr replaying

theorem target_named : u.promotion.target.parts ≠ [] := by
  rw [u.intends.target, Store.definedPath, definitionPath_eq u.intends.targetIsIdentifier]
  simp

theorem loaded_of_load (grown : u.Grown view disk) (journal : disk.Reaches u.journal)
    {table : Registry} (loaded : u.store.load disk = .ok table) :
    disk.node? u.registryPlace = view u.registryPlace ∧
      Registry.ofNode u.store.registryPath (view u.registryPlace) = .ok table := by
  rw [Store.load_of_reaches (Store.registry_reaches u.journalPath journal),
    Disk.destination_of_current grown.keeps.current] at loaded
  have node : disk.node? u.registryPlace = view u.registryPlace := by
    rcases grown.node u.registryPlace with same | ⟨free, _, leftover⟩
    · exact same
    · cases shape : disk.node? u.registryPlace with
      | none => exact free.symm
      | some kind =>
          cases kind with
          | directory =>
              have refused := loaded
              rw [show u.before.destination u.store.registryPath = u.registryPlace from rfl,
                shape] at refused
              cases refused
          | file content =>
              rw [shape] at leftover
              obtain ⟨n, beside | beside⟩ := leftover
              · exact absurd beside (u.registryPlace_ne_journal_temporary n)
              · exact absurd beside (u.registryPlace_ne_temporary n)
  exact ⟨node, node ▸ loaded⟩

/-! ## Writing the table -/

/-- The disk on which the table is written is the same with another registry. -/
theorem StandsAt.written {table : Registry} (stands : u.StandsAt view disk)
    (replayable : u.Replayable view)
    (loaded : Registry.ofNode u.store.registryPath (view u.registryPlace) = .ok table)
    (short : (u.registered table).toDocument.longInteger? = none)
    (sameKeeps : disk.Keeps later)
    (written : Work.Written u.store.registryPath (u.registered table).fileText disk later) :
    u.Tabled later := by
  have alters := written.alters
  rw [Disk.destination_of_current stands.grown.keeps.current] at alters
  have grown := stands.grown.alters alters sameKeeps
  obtain ⟨first, loads, same⟩ := replayable.loads loaded short written.movable written.temporary
  rw [show u.before.destination u.store.registryPath = u.registryPlace from rfl,
    replayable.set_registryPlace] at grown
  refine ⟨first, loads, stands.next sameKeeps ?_⟩
  unfold tabled at grown ⊢
  rw [← same]
  exact grown

theorem leads_enroll (replaying : u.Replaying disk) :
    (u.store.enroll u.promotion).Leads disk
      ⟨fun _ => u.Tabled, fun _ => u.Replaying, u.Replaying⟩ := by
  have ⟨view, replayable, stands⟩ := replaying
  refine Store.leads_enroll u.told.named (fun _ => replaying) fun table loaded => ?_
  obtain ⟨_, loaded⟩ := loaded_of_load stands.grown stands.journal loaded
  have paved := Store.registry_paved u.journalPath stands.journal
  refine (Store.leads_save (u.registered table)).mono ?_ ?_ ?_
  · rintro _ later ⟨short, between, furnished, written⟩
    have between := stands.next furnished.keeps
      (stands.grown.of_same furnished.keeps (furnished.node?_eq paved))
    have keeps := written.alters.keeps written.noDirectory
    exact between.written replayable loaded short keeps written
  · intro _ later furnished
    exact ⟨view, replayable, stands.next furnished.keeps
      (stands.grown.of_same furnished.keeps (furnished.node?_eq paved))⟩
  · rintro later ⟨between, furnished, littered⟩
    have grown := stands.grown.of_same furnished.keeps (furnished.node?_eq paved)
    have last := grown.littered littered (Or.inr rfl) fun _ => replayable.before
    exact ⟨view, replayable, stands.next (furnished.keeps.trans littered.keeps) last⟩

/-! ## Moving the definition -/

theorem onWay_before (grown : u.Grown view disk) {path : Path} :
    disk.OnWay path = u.before.OnWay path :=
  Disk.onWay_of_current grown.keeps.current

theorem Journalled.furnished (journalled : u.Journalled disk)
    (furnished : Disk.Furnished (disk.OnWay u.promotion.target.parent) disk later) :
    u.Journalled later := by
  rw [onWay_before journalled.grown] at furnished
  have grown := journalled.grown.furnished furnished (fun _ => Or.inr)
    fun _ => u.before_of_journalled
  refine ⟨grown, furnished.keeps.reaches journalled.journal, fun location content file => ?_⟩
  exact journalled.files location content (furnished.file file)

/-- The definition is moved by hand to where it goes. -/
theorem Journalled.moved (journalled : u.Journalled disk)
    (moved : Work.Moved u.promotion.source u.promotion.target u.content disk later) :
    u.Replaying later :=
  ⟨u.moved, .afterMove, journalled.grown.moved moved,
    moved.keeps.reaches journalled.journal, moved.reaches⟩

theorem Journalled.leads_move (journalled : u.Journalled disk) :
    (Work.moveFile u.promotion.source u.promotion.target).Leads disk
      ⟨fun _ => u.Replaying, fun _ => u.Pending, u.Pending⟩ := by
  have file : disk.node? (disk.destination u.promotion.source) = some (.file u.content) := by
    rw [Disk.destination_of_current journalled.grown.keeps.current]
    exact journalled.grown.node?_of_some u.journalled_sourcePlace
  refine (Work.leads_moveFile file).mono ?_ ?_ ?_
  · rintro _ later ⟨between, furnished, moved⟩
    exact (journalled.furnished furnished).moved moved
  · exact fun _ _ furnished => Or.inl (journalled.furnished furnished)
  · exact fun _ furnished => Or.inl (journalled.furnished furnished)

/-- A definition that is moved already and still there is where it goes. -/
theorem StandsAt.sourcePlace_eq (stands : u.StandsAt view disk) (replayable : u.Replayable view)
    (isThere : disk.pathExists u.promotion.source = .ok true) :
    u.sourcePlace = u.targetPlace := by
  have taken := (Disk.pathExists_eq_true_iff.mp isThere).2
  rw [Disk.destination_of_current stands.grown.keeps.current] at taken
  by_contra differs
  have nothing := stands.grown.node?_sourcePlace (replayable.sourcePlace differs)
  rw [show u.before.destination u.promotion.source = u.sourcePlace from rfl, nothing] at taken
  cases taken

theorem StandsAt.file (stands : u.StandsAt view disk) (same : u.sourcePlace = u.targetPlace)
    {content : Content} (atTarget : view u.targetPlace = some (.file content)) :
    disk.node? (disk.destination u.promotion.source) = some (.file content) := by
  rw [Disk.destination_of_current stands.grown.keeps.current]
  exact stands.grown.node?_of_some (same ▸ atTarget : view u.sourcePlace = _)

theorem StandsAt.target_paved (stands : u.StandsAt view disk) (location : Location)
    (onWay : disk.OnWay u.promotion.target.parent location) :
    disk.node? location = some .directory :=
  stands.target.directory_of_onWay target_named onWay

/-- A definition that is moved already is moved to where it is. -/
theorem Replaying.leads_move (replaying : u.Replaying disk)
    (isThere : disk.pathExists u.promotion.source = .ok true) :
    (Work.moveFile u.promotion.source u.promotion.target).Leads disk
      ⟨fun _ => u.Replaying, fun _ => u.Pending, u.Pending⟩ := by
  obtain ⟨view, replayable, stands⟩ := replaying
  have same := stands.sourcePlace_eq replayable isThere
  obtain ⟨content, atTarget⟩ := replayable.targetPlace
  have file := stands.file same atTarget
  have stays {later : Disk}
      (furnished : Disk.Furnished (disk.OnWay u.promotion.target.parent) disk later) :
      u.StandsAt view later :=
    stands.next furnished.keeps
      (stands.grown.of_same furnished.keeps (furnished.node?_eq stands.target_paved))
  refine (Work.leads_moveFile file).mono ?_ ?_ ?_
  · rintro _ later ⟨between, furnished, moved⟩
    have standsBetween := stays furnished
    refine ⟨view, replayable, standsBetween.next moved.keeps ?_⟩
    refine standsBetween.grown.of_same moved.keeps fun location => ?_
    have still := standsBetween.grown.node?_of_some atTarget
    have node := moved.node location
    rw [Disk.destination_of_current standsBetween.grown.keeps.current,
      Disk.destination_of_current standsBetween.grown.keeps.current] at node
    change _ = if location = u.targetPlace then _ else if location = u.sourcePlace then _ else _
      at node
    rw [node]
    split
    · rename_i here
      rw [here, still]
    · rename_i elsewhere
      rw [same, if_neg elsewhere]
  · exact fun _ _ furnished => Or.inr ⟨view, replayable, stays furnished⟩
  · exact fun _ furnished => Or.inr ⟨view, replayable, stays furnished⟩

theorem Journalled.isThere (journalled : u.Journalled disk) :
    disk.pathExists u.promotion.source = .ok true := by
  refine Disk.pathExists_eq_true_iff.mpr ⟨journalled.grown.keeps.reaches u.reaches, ?_⟩
  rw [Disk.destination_of_current journalled.grown.keeps.current]
  exact Option.isSome_of_eq_some (journalled.grown.node?_of_some u.journalled_sourcePlace)

theorem leads_move_enroll {work : Work Fault Unit} {change : Fault → Error}
    (moving : work.Leads disk ⟨fun _ => u.Replaying, fun _ => u.Pending, u.Pending⟩) :
    (work.mapFault change >>= fun _ => u.store.enroll u.promotion).Leads disk
      ⟨fun _ => u.Tabled, fun _ => u.Pending, u.Pending⟩ := by
  have mapped : (work.mapFault change).Leads disk
      ⟨fun _ => u.Replaying, fun _ => u.Pending, u.Pending⟩ := moving.mapFault
  refine mapped.bind ?_ (fun _ _ => id) fun _ => id
  intro _ later replaying
  exact (leads_enroll replaying).mono (fun _ _ => id) (fun _ _ => Replaying.pending)
    fun _ => Replaying.pending

/-- Done again from any stage, the changes of a promotion end with the table written. -/
theorem Pending.leads_applyPromotion (pending : u.Pending disk) :
    (u.store.applyPromotion u.promotion).Leads disk
      ⟨fun _ => u.Tabled, fun _ => u.Pending, u.Pending⟩ := by
  rw [Store.applyPromotion_eq]
  refine Work.leads_ask_bind ?_ fun _ _ => pending
  intro isThere asked
  rw [Store.asks_eq_ok_iff] at asked
  rcases pending with journalled | replaying
  · obtain rfl : true = isThere := Except.ok.inj (journalled.isThere.symm.trans asked)
    exact leads_move_enroll journalled.leads_move
  · split
    · rename_i yes
      subst yes
      exact leads_move_enroll (replaying.leads_move asked)
    · exact (leads_enroll replaying).mono (fun _ _ => id) (fun _ _ => Replaying.pending)
        fun _ => Replaying.pending

/-! ## The whole of a promotion and of a recovery -/

theorem Pending.grown (pending : u.Pending disk) : ∃ view, u.Grown view disk ∧
    view u.journalPlace = some (.file (.text u.promotion.toDocument.fileText)) := by
  rcases pending with journalled | ⟨view, replayable, stands⟩
  · exact ⟨u.journalled, journalled.grown, u.journalled_journalPlace⟩
  · exact ⟨view, stands.grown, replayable.journalPlace⟩

theorem Pending.journal_reaches (pending : u.Pending disk) : disk.Reaches u.journal := by
  rcases pending with journalled | ⟨view, _, stands⟩
  · exact journalled.journal
  · exact stands.journal

theorem Pending.journal_written (pending : u.Pending disk) :
    disk.node? (disk.destination u.journal) =
      some (.file (.text u.promotion.toDocument.fileText)) := by
  obtain ⟨view, grown, written⟩ := pending.grown
  rw [Disk.destination_of_current grown.keeps.current]
  exact grown.node?_of_some written

theorem Pending.isThere (pending : u.Pending disk) : disk.pathExists u.journal = .ok true :=
  Disk.pathExists_eq_true_iff.mpr
    ⟨pending.journal_reaches, Option.isSome_of_eq_some pending.journal_written⟩

theorem Pending.read (pending : u.Pending disk) :
    Promotion.read disk u.journal = .ok u.promotion :=
  Promotion.read_written u.told pending.journal_reaches pending.journal_written

theorem Tabled.leads_clearJournal (tabled : u.Tabled disk) :
    u.store.clearJournal.Leads disk ⟨fun _ => u.Finished, fun _ => u.Pending, u.Pending⟩ := by
  have pending := tabled.replaying.pending
  obtain ⟨table, loads, stands⟩ := tabled
  rw [Store.clearJournal_eq u.journalPath]
  refine .mapFault ((Work.leads_removeIfThere stands.journal pending.journal_written).mono
    ?_ ?_ ?_)
  · intro _ later alters
    have keeps := alters.keeps (Disk.noDirectory_of_file pending.journal_written)
    rw [Disk.destination_of_current stands.grown.keeps.current] at alters
    exact ⟨table, loads, stands.next keeps (stands.grown.alters alters keeps), alters.here⟩
  · rintro _ _ rfl
    exact pending
  · rintro _ rfl
    exact pending

theorem Pending.definitionRemains (pending : u.Pending disk) :
    Store.definitionRemains u.promotion disk = .ok true := by
  obtain ⟨view, grown, _⟩ := pending.grown
  have source := Disk.pathExists_of_reaches (grown.keeps.reaches u.reaches)
  refine bind_eq_ok_iff.mpr ⟨_, Store.asks_eq_ok_iff.mpr source, ?_⟩
  split
  · rfl
  · rename_i gone
    rw [Disk.destination_of_current grown.keeps.current] at gone
    rcases pending with journalled | ⟨view, replayable, stands⟩
    · rw [show u.before.destination u.promotion.source = u.sourcePlace from rfl,
        journalled.grown.node?_of_some u.journalled_sourcePlace] at gone
      exact absurd rfl gone
    · obtain ⟨content, atTarget⟩ := replayable.targetPlace
      refine Store.asks_eq_ok_iff.mpr (Disk.pathExists_eq_true_iff.mpr ⟨stands.target, ?_⟩)
      rw [Disk.destination_of_current grown.keeps.current]
      exact Option.isSome_of_eq_some (stands.grown.node?_of_some atTarget)

/-- Completing a promotion from its journal. -/
theorem Pending.leads_recover (pending : u.Pending disk) :
    u.store.recover.Leads disk
      ⟨fun done later => done = true ∧ u.Finished later, fun _ => u.Pending, u.Pending⟩ := by
  refine Store.leads_recover u.journalPath (fun _ => pending) ?_ ?_
  · intro isGone
    cases isGone.symm.trans pending.isThere
  · intro promotion read
    obtain rfl : u.promotion = promotion := Except.ok.inj (pending.read.symm.trans read)
    refine Store.leads_resume (fun _ => pending) ?_ fun record _ => ?_
    · intro isGone
      cases isGone.symm.trans pending.definitionRemains
    · refine pending.leads_applyPromotion.bind ?_ (fun _ _ => id) fun _ => id
      intro _ later tabled
      refine tabled.leads_clearJournal.bind ?_ (fun _ _ => id) fun _ => id
      exact fun _ last finished => Work.leads_tell_bind (Work.leads_pure ⟨rfl, finished⟩)

/-- A promotion is done, or nothing is done, or it can be completed from its journal. -/
theorem leads_commit :
    (u.store.commit u.name u.promotion).Leads u.before
      ⟨fun done later => done = true ∧ u.Finished later,
        fun _ later => u.Grown u.before.node? later ∨ u.Pending later,
        fun later => u.Grown u.before.node? later ∨ u.Pending later⟩ := by
  have start : u.Grown u.before.node? u.before :=
    ⟨Disk.Keeps.refl u.before, fun _ => Or.inl rfl⟩
  have grows {later : Disk}
      (furnished : Disk.Furnished (u.before.OnWay u.store.registryPath.parent) u.before later) :
      u.Grown u.before.node? later :=
    start.furnished furnished (fun _ => Or.inl) fun _ => id
  have writing : (u.store.writeJournal u.promotion).Leads u.before
      ⟨fun _ => u.Journalled, fun _ => u.Grown u.before.node?, u.Grown u.before.node?⟩ := by
    refine (Store.leads_writeJournal u.journalPath u.promotion).mono ?_ ?_ ?_
    · rintro _ later ⟨between, furnished, written⟩
      have grown := grows furnished
      have alters := written.alters
      rw [Disk.destination_of_current grown.keeps.current] at alters
      refine ⟨grown.alters alters (written.alters.keeps written.noDirectory), written.reaches,
        fun location content file => ?_⟩
      by_cases here : location = u.journalPlace
      · rw [here] at file ⊢
        rw [u.journalled_journalPlace, ← file]
        exact alters.here.symm
      · rw [journalled, View.set_elsewhere here]
        exact furnished.file ((alters.elsewhere here).symm.trans file)
    · exact fun _ _ => grows
    · rintro later ⟨between, furnished, littered⟩
      exact (grows furnished).littered littered (Or.inl rfl) fun _ _ => id
  unfold Store.commit
  refine writing.bind ?_ (fun _ _ => Or.inl) fun _ => Or.inl
  intro _ later journalled
  have pending : u.Pending later := Or.inl journalled
  refine pending.leads_applyPromotion.bind ?_ (fun _ _ => Or.inr) fun _ => Or.inr
  intro _ last tabled
  refine tabled.leads_clearJournal.bind ?_ (fun _ _ => Or.inr) fun _ => Or.inr
  exact fun _ _ finished => Work.leads_tell_bind (Work.leads_pure ⟨rfl, finished⟩)

end Undertaking

end AgentFlow
