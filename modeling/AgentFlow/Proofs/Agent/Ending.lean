import AgentFlow.Proofs.Agent.Operations
import AgentFlow.Proofs.Agent.Steps
import AgentFlow.Proofs.Files.Asking
import AgentFlow.Proofs.Files.Endings

/-!
# What operations leave that come to their end

An operation that gives an answer leaves no temporary file and no half of its work.  Files
differ at the places that it is about, and at no others; directories may be new.  So the
state between two operations is told by a few facts: there is no journal, the registry file
holds a table, and every definition of a defined agent is reached by its path.
-/

namespace AgentFlow

open AgentFlow.Text

/-! ## Tables -/

namespace Registry

/-- The table with one more use of an agent.  A name that is not registered is ignored. -/
def count (name : String) (table : Registry) : Registry :=
  table.map fun line => if line.1 = name then (line.1, line.2.used) else line

variable {table : Registry} {name : String} {entry : Entry}

theorem get?_eq_none_iff : table.get? name = none ↔ name ∉ table.map Prod.fst := by
  rw [get?, List.lookup_eq_none_iff, List.mem_map, not_exists]
  refine forall_congr' fun line => ?_
  rw [bne_iff_ne, not_and, ne_comm]

theorem keys_count (name : String) (table : Registry) :
    (table.count name).map Prod.fst = table.map Prod.fst := by
  rw [count, List.map_map]
  refine List.map_congr_left fun line _ => ?_
  rw [Function.comp_apply]
  split <;> rfl

theorem count_of_absent (absent : name ∉ table.map Prod.fst) : table.count name = table := by
  refine (List.map_congr_left fun line member => ?_).trans (List.map_id table)
  refine if_neg fun here => absent ?_
  exact here ▸ List.mem_map_of_mem member

theorem insert_of_absent (absent : table.get? name = none) :
    table.insert name entry = table ++ [(name, entry)] := by
  induction table with
  | nil => rfl
  | cons first table induction =>
      obtain ⟨other, old⟩ := first
      rw [get?_cons] at absent
      split at absent
      · cases absent
      · rename_i differs
        rw [insert, if_neg (Ne.symm differs), induction absent, List.cons_append]

/-- The entry of an agent is found once, as names are distinct. -/
theorem insert_used (distinct : (table.map Prod.fst).Nodup)
    (found : table.get? name = some entry) : table.insert name entry.used = table.count name := by
  induction table with
  | nil => cases found
  | cons first table induction =>
      obtain ⟨other, old⟩ := first
      obtain ⟨notAgain, distinct⟩ := List.nodup_cons.mp distinct
      rw [get?_cons] at found
      rw [count, List.map_cons, insert]
      by_cases here : other = name
      · subst here
        rw [if_pos rfl] at found
        cases found
        rw [if_pos rfl, if_pos rfl]
        exact congrArg _ (count_of_absent notAgain).symm
      · rw [if_neg (Ne.symm here)] at found
        rw [if_neg here, if_neg here]
        exact congrArg _ (induction distinct found)

end Registry

namespace Layout

variable {l : Layout} {disk later : Disk} {name : String} {content : Content}
  {promotion : Promotion} {table after : Registry} {touched : Location → Prop}

/-! ## A disk at rest -/

/-- What the registry file records.  Without a file there is nothing. -/
structure Records (l : Layout) (disk : Disk) (table : Registry) : Prop where
  read : ∀ content, disk.node? l.registryPlace = some (.file content) →
    Registry.ofNode l.store.registryPath (some (.file content)) = .ok table
  empty : ¬l.Holds disk l.store.registryPath → table = []

/-- A disk between two operations that come to their ends. -/
structure Rests (l : Layout) (disk : Disk) (table : Registry) : Prop where
  current : disk.current = l.start.current
  registry : l.Holds disk l.store.registryPath → disk.Reaches l.store.registryPath
  records : l.Records disk table
  noJournal : ¬l.Holds disk l.journal
  defined : ∀ name, isIdentifier name = true → l.Holds disk (l.store.definedPath name) →
    disk.Reaches (l.store.definedPath name)

theorem holds_left {path : Path} (leaves : Disk.Leaves touched disk later)
    (untouched : ¬touched (l.place path)) : l.Holds later path ↔ l.Holds disk path :=
  exists_congr fun content => leaves.file _ content untouched

theorem Records.left (records : l.Records disk table) (leaves : Disk.Leaves touched disk later)
    (untouched : ¬touched l.registryPlace) : l.Records later table where
  read := fun content file => records.read content ((leaves.file _ content untouched).mp file)
  empty := fun nothing =>
    records.empty fun holds => nothing ((holds_left leaves untouched).mpr holds)

/-- What is loaded is what the registry file records, as long as it is left alone. -/
theorem Rests.load_left (rests : l.Rests disk table) (leaves : Disk.Leaves touched disk later)
    (untouched : ¬touched l.registryPlace) (loaded : l.store.load later = .ok after) :
    after = table := by
  have records := rests.records.left leaves untouched
  have destination : later.destination l.store.registryPath = l.registryPlace :=
    Disk.destination_of_current (leaves.keeps.current.trans rests.current) _
  by_cases holds : l.Holds later l.store.registryPath
  · have ⟨content, file⟩ := holds
    have reaches := leaves.keeps.reaches (rests.registry ((holds_left leaves untouched).mp holds))
    have read := records.read content file
    rw [Store.load_of_reaches reaches, destination] at loaded
    rw [show later.node? l.registryPlace = _ from file, read] at loaded
    exact (Except.ok.inj loaded).symm
  · rw [records.empty holds]
    rcases Store.file_of_load loaded with nothing | ⟨_, content, file⟩
    · exact nothing
    · rw [destination] at file
      exact absurd ⟨content, file⟩ holds

theorem Rests.load (rests : l.Rests disk table) (loaded : l.store.load disk = .ok after) :
    after = table :=
  @load_left _ _ _ _ _ Nothing rests (.refl disk) id loaded

theorem Rests.next (rests : l.Rests disk table) (leaves : Disk.Leaves touched disk later)
    (registry : touched l.registryPlace → later.Reaches l.store.registryPath)
    (records : l.Records later after) (noJournal : touched l.journalPlace → ¬l.Holds later l.journal)
    (defined : ∀ name, isIdentifier name = true → touched (l.place (l.store.definedPath name)) →
      l.Holds later (l.store.definedPath name) → later.Reaches (l.store.definedPath name)) :
    l.Rests later after where
  current := leaves.keeps.current.trans rests.current
  registry := by
    intro holds
    by_cases written : touched l.registryPlace
    · exact registry written
    · exact leaves.keeps.reaches (rests.registry ((holds_left leaves written).mp holds))
  records := records
  noJournal := by
    by_cases written : touched l.journalPlace
    · exact noJournal written
    · exact fun holds => rests.noJournal ((holds_left leaves written).mp holds)
  defined := by
    intro name identifier holds
    by_cases moved : touched (l.place (l.store.definedPath name))
    · exact defined name identifier moved holds
    · exact leaves.keeps.reaches
        (rests.defined name identifier ((holds_left leaves moved).mp holds))

/-! ## Parts of operations -/

theorem leads_atomicWrite_atEnd (current : disk.current = l.start.current) (path : Path)
    (text : String) :
    (Work.atomicWrite path text).Leads disk (.atEnd fun _ later =>
      Disk.Leaves (· = l.place path) disk later ∧ later.Reaches path ∧
        later.node? (l.place path) = some (.file (.text text))) := by
  refine (Work.leads_atomicWrite disk path text).atEnd.weaken ?_
  rintro _ later ⟨between, furnished, written⟩
  obtain ⟨alters, noDirectory⟩ := alters_written (furnished.current.trans current) written
  exact ⟨(Disk.Leaves.ofFurnished furnished).trans (.ofAlters alters noDirectory),
    written.reaches, alters.here⟩

theorem leads_writeJournal_atEnd (current : disk.current = l.start.current) :
    (l.store.writeJournal promotion).Leads disk (.atEnd fun _ later =>
      Disk.Leaves (· = l.journalPlace) disk later ∧ later.Reaches l.journal ∧
        later.node? l.journalPlace = some (.file (.text promotion.toDocument.fileText))) := by
  rw [Store.writeJournal_eq l.journalPath]
  exact (leads_atomicWrite_atEnd current _ _).mapFault_atEnd

/-- The definition of a promotion is where it goes, and no longer where it comes from. -/
structure Arrives (l : Layout) (promotion : Promotion) (content : Content) (disk : Disk) :
    Prop where
  reaches : disk.Reaches promotion.target
  target : disk.node? (l.place promotion.target) = some (.file content)
  gone : l.place promotion.source ≠ l.place promotion.target → ¬l.Holds disk promotion.source

theorem Arrives.left (arrives : l.Arrives promotion content disk)
    (leaves : Disk.Leaves touched disk later)
    (untouched : ∀ location, l.Route promotion location → ¬touched location) :
    l.Arrives promotion content later where
  reaches := leaves.keeps.reaches arrives.reaches
  target := (leaves.file _ _ (untouched _ (.inr rfl))).mpr arrives.target
  gone := fun differs holds =>
    arrives.gone differs ((holds_left leaves (untouched _ (.inl rfl))).mp holds)

theorem leads_moveFile_atEnd (current : disk.current = l.start.current)
    (file : disk.node? (l.place promotion.source) = some (.file content)) :
    (Work.moveFile promotion.source promotion.target).Leads disk (.atEnd fun _ later =>
      Disk.Leaves (l.Route promotion) disk later ∧ l.Arrives promotion content later) := by
  rw [place, ← Disk.destination_of_current current] at file
  refine (Work.leads_moveFile file).atEnd.weaken ?_
  rintro _ later ⟨between, furnished, moved⟩
  have node := node?_moved (furnished.current.trans current) moved
  refine ⟨(Disk.Leaves.ofFurnished furnished).trans ⟨moved.keeps, ?_⟩, moved.reaches,
    (node _).trans (if_pos rfl), ?_⟩
  · intro location content untouched
    obtain ⟨notSource, notTarget⟩ := not_or.mp untouched
    rw [node, if_neg notTarget, if_neg notSource]
  · rintro differs ⟨content, still⟩
    rw [node, if_neg differs, if_pos rfl] at still
    cases still

/-- A table is in the registry file. -/
structure Saved (l : Layout) (table : Registry) (disk : Disk) : Prop where
  reaches : disk.Reaches l.store.registryPath
  written : ∃ content, disk.node? l.registryPlace = some (.file content) ∧
    Registry.ofNode l.store.registryPath (some (.file content)) = .ok table

theorem Saved.records (saved : l.Saved table disk) : l.Records disk table := by
  obtain ⟨content, written, read⟩ := saved.written
  refine ⟨fun other file => ?_, fun nothing => absurd ⟨content, written⟩ nothing⟩
  rwa [← file, written]

theorem Saved.left (saved : l.Saved table disk) (leaves : Disk.Leaves touched disk later)
    (untouched : ¬touched l.registryPlace) : l.Saved table later := by
  obtain ⟨reaches, content, file, read⟩ := saved
  exact ⟨leaves.keeps.reaches reaches, content, (leaves.file _ _ untouched).mpr file, read⟩

theorem leads_save_atEnd (current : disk.current = l.start.current)
    (wellFormed : table.WellFormed) :
    (l.store.save table).Leads disk (.atEnd fun _ later =>
      Disk.Leaves (· = l.registryPlace) disk later ∧ l.Saved table later) := by
  unfold Store.save Store.writeRegistry
  refine Work.leads_ofExcept_atEnd fun text isText => ?_
  obtain ⟨short, rfl⟩ := Json.Document.fileText?_eq_ok (mapError_eq_ok_iff.mp isText)
  refine (leads_atomicWrite_atEnd current _ _).mapFault_atEnd.weaken ?_
  rintro _ later ⟨leaves, reaches, written⟩
  exact ⟨leaves, reaches, _, written, Registry.ofNode_written wellFormed short _⟩

theorem leads_enroll_atEnd (current : disk.current = l.start.current) (told : promotion.IsTold)
    (loads : ∀ loaded, l.store.load disk = .ok loaded → loaded = table) :
    (l.store.enroll promotion).Leads disk (.atEnd fun _ later =>
      Disk.Leaves (· = l.registryPlace) disk later ∧
        l.Saved (table.insert promotion.entry.agentName promotion.entry) later) := by
  refine Store.leads_enroll told.named (fun _ => trivial) fun loaded asked => ?_
  rw [← loads loaded asked]
  exact leads_save_atEnd current ((Store.wellFormed_of_load asked).insert told.entry)

theorem leads_clearJournal_atEnd (current : disk.current = l.start.current)
    (reaches : disk.Reaches l.journal)
    (written : disk.node? l.journalPlace = some (.file content)) :
    l.store.clearJournal.Leads disk (.atEnd fun _ later =>
      Disk.Leaves (· = l.journalPlace) disk later ∧ later.node? l.journalPlace = none) := by
  have sameJournal : disk.destination l.journal = l.journalPlace :=
    Disk.destination_of_current current _
  rw [← sameJournal] at written ⊢
  rw [Store.clearJournal_eq l.journalPath]
  refine ((Work.leads_removeIfThere reaches written).atEnd.weaken ?_).mapFault_atEnd
  exact fun _ _ alters => ⟨.ofAlters alters (Disk.noDirectory_of_file written), alters.here⟩

theorem leads_applyPromotion_atEnd (current : disk.current = l.start.current)
    (belongs : l.Belongs promotion) (isFile : disk.isFile promotion.source = .ok true)
    (file : disk.node? (l.place promotion.source) = some (.file content))
    (loads : ∀ {later loaded}, Disk.Leaves (l.Route promotion) disk later →
      l.store.load later = .ok loaded → loaded = table) :
    (l.store.applyPromotion promotion).Leads disk (.atEnd fun _ later =>
      Disk.Leaves (fun location => location = l.registryPlace ∨ l.Route promotion location)
          disk later ∧
        l.Saved (table.insert promotion.entry.agentName promotion.entry) later ∧
        l.Arrives promotion content later) := by
  rw [Store.applyPromotion_eq]
  refine Work.leads_ask_atEnd fun isThere asked => ?_
  obtain ⟨reaches, _, found⟩ := Disk.isFile_eq_true_iff.mp isFile
  rw [Store.asks_eq_ok_iff, Disk.pathExists_of_reaches reaches, found] at asked
  obtain rfl : true = isThere := Except.ok.inj asked
  rw [if_pos rfl]
  refine (leads_moveFile_atEnd current file).mapFault_atEnd.bind_atEnd ?_
  rintro _ moved ⟨leaves, arrives⟩
  refine (leads_enroll_atEnd (leaves.keeps.current.trans current) belongs.told
    fun _ => loads leaves).weaken ?_
  rintro _ later ⟨leavesLater, saved⟩
  have onRoute (location : Location) (onRoute : l.Route promotion location) :
      ¬location = l.registryPlace := by
    rintro rfl
    exact belongs.registry_untouched onRoute
  exact ⟨(leaves.mono fun _ => .inr).trans (leavesLater.mono fun _ => .inl), saved,
    arrives.left leavesLater onRoute⟩

/-! ## Operations -/

/-- The places that a promotion is about. -/
def Around (l : Layout) (promotion : Promotion) (location : Location) : Prop :=
  location = l.journalPlace ∨ location = l.registryPlace ∨ l.Route promotion location

/-- A promotion is done. -/
structure Promoted (l : Layout) (promotion : Promotion) (table : Registry) (disk later : Disk) :
    Prop where
  belongs : l.Belongs promotion
  leaves : Disk.Leaves (l.Around promotion) disk later
  rests : l.Rests later (table ++ [(promotion.entry.agentName, promotion.entry)])
  free : ¬l.Holds disk promotion.target
  moved : ∃ content, disk.node? (l.place promotion.source) = some (.file content) ∧
    l.Arrives promotion content later

/-- The only definition that is new among the defined agents is reached by its path. -/
theorem Arrives.defined (arrives : l.Arrives promotion content disk)
    (belongs : l.Belongs promotion) {name : String} (identifier : isIdentifier name = true)
    (around : l.Around promotion (l.place (l.store.definedPath name)))
    (holds : l.Holds disk (l.store.definedPath name)) :
    disk.Reaches (l.store.definedPath name) := by
  have atTarget : l.place (l.store.definedPath name) = l.place promotion.target := by
    rcases around with journal | registry | source | target
    · exact absurd journal.symm (l.journalPlace_ne_definition identifier)
    · exact absurd registry (l.definedApart name identifier)
    · rw [Holds, source] at holds
      rw [source]
      by_contra differs
      exact arrives.gone differs holds
    · exact target
  have reaches := arrives.reaches
  rw [belongs.target] at atTarget reaches
  rwa [Disk.destination_definition_inj identifier belongs.identifier atTarget]

/-- Where a definition is to go that can be promoted, there is none. -/
theorem Rests.free (rests : l.Rests disk table)
    (intends : l.store.Intends name disk promotion) : ¬l.Holds disk promotion.target := by
  intro holds
  have isFree := intends.free
  rw [intends.target] at holds isFree
  have reaches := rests.defined _ intends.targetIsIdentifier holds
  obtain ⟨content, file⟩ := holds
  rw [place, ← Disk.destination_of_current rests.current] at file
  rw [Disk.pathExists_of_reaches reaches, file] at isFree
  cases isFree

theorem Rests.leads_commit (rests : l.Rests disk table)
    (intends : l.store.Intends name disk promotion) :
    (l.store.commit name promotion).Leads disk (.atEnd fun done later =>
      done = true ∧ l.Promoted promotion table disk later) := by
  have belongs := belongs_of_intends intends
  obtain ⟨reaches, content, file⟩ := Disk.isFile_eq_true_iff.mp intends.isFile
  rw [Disk.destination_of_current rests.current] at file
  have apart {location : Location} (onRoute : l.Route promotion location) :
      ¬location = l.journalPlace := by
    rintro rfl
    exact belongs.journal_untouched onRoute
  unfold Store.commit
  refine (leads_writeJournal_atEnd rests.current).bind_atEnd ?_
  rintro _ journalled ⟨leavesFirst, reachesJournal, written⟩
  have current := leavesFirst.keeps.current.trans rests.current
  have fileFirst := (leavesFirst.file _ _ (apart (.inl rfl))).mpr file
  have isFile : journalled.isFile promotion.source = .ok true := by
    refine Disk.isFile_eq_true_iff.mpr ⟨leavesFirst.keeps.reaches reaches, content, ?_⟩
    rwa [Disk.destination_of_current current]
  refine (@leads_applyPromotion_atEnd _ _ _ _ table current belongs isFile fileFirst
    ?_).bind_atEnd ?_
  · intro moved loaded leaves
    have together : Disk.Leaves (fun location => location = l.journalPlace ∨
        l.Route promotion location) disk moved :=
      (leavesFirst.mono fun _ => .inl).trans (leaves.mono fun _ => .inr)
    refine rests.load_left together ?_
    exact not_or.mpr ⟨l.registryPlace_ne_journalPlace, belongs.registry_untouched⟩
  rintro _ applied ⟨leavesNext, saved, arrives⟩
  have journalApart :
      ¬(l.journalPlace = l.registryPlace ∨ l.Route promotion l.journalPlace) :=
    not_or.mpr ⟨l.journalPlace_ne_registryPlace, belongs.journal_untouched⟩
  refine (leads_clearJournal_atEnd (leavesNext.keeps.current.trans current)
    (leavesNext.keeps.reaches reachesJournal)
    ((leavesNext.file _ _ journalApart).mpr written)).bind_atEnd ?_
  rintro _ later ⟨leavesLast, noJournal⟩
  refine Work.leads_tell_bind (Work.leads_pure_atEnd ?_)
  have arrivesLater := arrives.left leavesLast fun _ => apart
  have leaves : Disk.Leaves (l.Around promotion) disk later :=
    ((leavesFirst.mono fun _ => .inl).trans (leavesNext.mono fun _ => .inr)).trans
      (leavesLast.mono fun _ => .inl)
  have absent : table.get? promotion.entry.agentName = none := by
    obtain ⟨loaded, asked, absent⟩ := intends.loaded
    rw [rests.load asked] at absent
    simpa [Registry.contains] using absent
  have savedLater := saved.left leavesLast l.registryPlace_ne_journalPlace
  rw [Registry.insert_of_absent absent] at savedLater
  have restsLater := rests.next leaves (fun _ => savedLater.reaches) savedLater.records
    (fun _ ⟨_, still⟩ => by cases noJournal.symm.trans still) fun _ => arrivesLater.defined belongs
  exact ⟨rfl, belongs, leaves, restsLater, rests.free intends, content, file, arrivesLater⟩

/-- A promotion that is done is the one that was asked for. -/
theorem Rests.leads_promote {today : Date} {newName : Option String}
    (rests : l.Rests disk table) :
    (l.store.promote today name newName).Leads disk (.atEnd fun done later =>
      done = false ∧ later = disk ∨ done = true ∧ isIdentifier name = true ∧ ∃ promotion,
        promotion.source = l.store.temporaryPath name ∧
        promotion.entry.agentName = Store.promotedName name newName ∧
        promotion.entry.usageCount = 0 ∧ l.Promoted promotion table disk later) := by
  refine Store.leads_promote (fun _ => trivial) (.inl ⟨rfl, rfl⟩) fun promotion decided => ?_
  obtain ⟨intends, named⟩ := Store.intends_of_intend decided
  refine (rests.leads_commit intends).weaken ?_
  rintro _ later ⟨isDone, promoted⟩
  exact .inr ⟨isDone, intends.nameIsIdentifier, promotion, intends.source, named, intends.unused, promoted⟩

theorem Rests.leads_deleteTemporary (rests : l.Rests disk table) :
    (l.store.deleteTemporary name).Leads disk (.atEnd fun done later =>
      done = false ∧ later = disk ∨ done = true ∧ isIdentifier name = true ∧
        disk.node? (l.place (l.store.temporaryPath name)) ≠ some .directory ∧
        Disk.Alters (l.place (l.store.temporaryPath name)) none disk later) := by
  refine Store.leads_deleteTemporary (fun _ => trivial) trivial (.inl ⟨rfl, rfl⟩)
    fun identifier _ later noDirectory alters => ?_
  rw [Disk.destination_of_current rests.current] at noDirectory alters
  exact .inr ⟨rfl, identifier, noDirectory, alters⟩

theorem Rests.leads_incrementUsage (rests : l.Rests disk table) :
    (l.store.incrementUsage name).Leads disk (.atEnd fun _ later =>
      Disk.Leaves (· = l.registryPlace) disk later ∧ l.Rests later (table.count name)) := by
  refine Store.leads_incrementUsage (fun _ _ => trivial) (fun loaded asked absent => ?_)
    fun loaded entry asked found => ?_
  · obtain rfl := rests.load asked
    rw [Registry.count_of_absent (Registry.get?_eq_none_iff.mp absent)]
    exact ⟨.refl disk, rests⟩
  · have wellFormed := Store.wellFormed_of_load asked
    obtain rfl := rests.load asked
    refine (leads_save_atEnd rests.current (wellFormed.insert_used found)).mono ?_ (fun _ _ => id)
      fun _ => id
    rintro _ later ⟨leaves, saved⟩
    refine ⟨leaves, ?_⟩
    rw [← Registry.insert_used wellFormed.distinct found]
    refine rests.next leaves (fun _ => saved.reaches) saved.records ?_ ?_
    · exact fun same => absurd same l.journalPlace_ne_registryPlace
    · exact fun other identifier same => absurd same (l.definedApart other identifier)

/-- Without a journal there is nothing to recover. -/
theorem Rests.leads_recover (rests : l.Rests disk table) :
    l.store.recover.Leads disk (.atEnd fun done later => done = false ∧ later = disk) := by
  refine Store.leads_recover l.journalPath (fun _ => trivial) (fun _ => ⟨rfl, rfl⟩) ?_
  intro promotion read
  exact absurd (holds_of_read rests.current read) rests.noJournal

end Layout

end AgentFlow
