import AgentFlow.Proofs.Agent.Calls
import AgentFlow.Proofs.Agent.Operations
import AgentFlow.Proofs.Files.Endings

/-!
# Definitions of defined agents are kept

A promotion checks that nothing stands where the definition goes, and it tells the journal
of a definition that is still where it comes from.  A recovery moves the definition
whenever there is one, so it overwrites if a new temporary agent has taken the place of the
one that was moved.  All other operations keep every definition, wherever they stop, and so
does a recovery that does not find both.

What is kept is said of a set of definitions, those that were there when the operation
began.  For a history nothing is kept but the journal: its promotion can be read, and no
directory stands where the definition comes from.
-/

namespace AgentFlow

open AgentFlow.Text

namespace Layout

variable {l : Layout} {disk later : Disk} {name : String} {content : Content}
  {promotion : Promotion} {kept : String → Content → Prop} {lost : Location → Prop}

/-- The file of a definition among the defined agents. -/
def definitionPlace (l : Layout) (name : String) : Location :=
  l.place (l.store.agentsDir.definitionFile name)

/-- The definition of a defined agent can be read, and this is its content. -/
def Defines (l : Layout) (disk : Disk) (name : String) (content : Content) : Prop :=
  ∃ location, disk.fileAt (l.store.agentsDir.definitionFile name) = .ok (location, content)

/-- The place of a temporary agent. -/
def Lends (l : Layout) (location : Location) : Prop :=
  ∃ name, isIdentifier name = true ∧ location = l.place (l.store.temporaryPath name)

/-- The definition is where it comes from or where it goes, but not at both places. -/
def Clear (l : Layout) (disk : Disk) : Prop :=
  ∀ promotion, Promotion.read disk l.journal = .ok promotion →
    disk.isFile promotion.target = .ok true → disk.isFile promotion.source = .ok true →
      l.place promotion.source = l.place promotion.target

/-- A store is asked for something, or a new temporary definition appears. -/
inductive Goes (l : Layout) : Disk → Disk → Prop
  | operates (disk : Disk) (operation : Operation) (mishaps : List Mishap) :
      Goes l disk (l.store.operated disk operation mishaps).2.disk
  | appears {name : String} {disk later : Disk} (appears : l.Appears name disk later) :
      Goes l disk later

/-- What becomes of a disk over time. -/
abbrev History (l : Layout) : Disk → Disk → Prop := Relation.ReflTransGen l.Goes

/-- The journal tells of a promotion, and no directory is where its definition comes from. -/
structure Tells (l : Layout) (promotion : Promotion) (disk : Disk) : Prop where
  journals : l.Journals promotion disk
  noDirectory : disk.node? (l.place promotion.source) ≠ some .directory

/-- A disk with a journal that can be followed, and with some definitions.  They may be
lost at certain places. -/
structure Guards (l : Layout) (kept : String → Content → Prop) (lost : Location → Prop)
    (disk : Disk) : Prop where
  current : disk.current = l.start.current
  journal : l.Holds disk l.journal → ∃ promotion, l.Tells promotion disk
  definitions : ∀ name content, kept name content → l.definitionPlace name ≠ l.registryPlace →
    l.Defines disk name content ∨ lost (l.definitionPlace name) ∧
      ¬l.Holds disk (l.store.agentsDir.definitionFile name)

/-! ## Definitions -/

theorem defines_iff (current : disk.current = l.start.current) :
    l.Defines disk name content ↔ disk.Reaches (l.store.agentsDir.definitionFile name) ∧
      disk.node? (l.definitionPlace name) = some (.file content) := by
  unfold Defines definitionPlace place
  rw [← Disk.destination_of_current current]
  constructor
  · rintro ⟨location, found⟩
    obtain ⟨reaches, rfl, file⟩ := Disk.fileAt_eq_ok_iff.mp found
    exact ⟨reaches, file⟩
  · rintro ⟨reaches, file⟩
    exact ⟨_, Disk.fileAt_eq_ok_iff.mpr ⟨reaches, rfl, file⟩⟩

theorem Lends.lasting {location : Location} (lends : l.Lends location) : l.Lasting location := by
  obtain ⟨name, identifier, rfl⟩ := lends
  exact l.lasting_definition identifier

theorem Lends.ne_journalPlace {location : Location} (lends : l.Lends location) :
    location ≠ l.journalPlace := by
  obtain ⟨name, identifier, rfl⟩ := lends
  exact Ne.symm (l.journalPlace_ne_definition identifier)

theorem Belongs.lends (belongs : l.Belongs promotion) : l.Lends (l.place promotion.source) := by
  obtain ⟨name, identifier, source⟩ := belongs.source
  exact ⟨name, identifier, by rw [source]⟩

/-- A definition where that of a promotion goes has the name of the promotion. -/
theorem Belongs.eq_of_place (belongs : l.Belongs promotion)
    (same : l.definitionPlace name = l.place promotion.target) :
    l.store.agentsDir.definitionFile name = promotion.target := by
  have target : promotion.target =
      l.store.agentsDir.definitionFile promotion.entry.agentName :=
    belongs.target.trans (definitionPath_eq_definitionFile belongs.identifier)
  rw [target] at same ⊢
  rw [definitionFile_inj same]

/-! ## What is guarded -/

theorem Guards.mono {wider : Location → Prop} (guards : l.Guards kept lost disk)
    (widens : ∀ location, lost location → wider location) : l.Guards kept wider disk where
  current := guards.current
  journal := guards.journal
  definitions := fun name content isKept apart =>
    (guards.definitions name content isKept apart).imp_right
      fun ⟨isLost, gone⟩ => ⟨widens _ isLost, gone⟩

theorem Guards.defines (guards : l.Guards kept Nothing disk) (isKept : kept name content)
    (apart : l.definitionPlace name ≠ l.registryPlace) : l.Defines disk name content :=
  (guards.definitions name content isKept apart).resolve_right fun ⟨nothing, _⟩ => nothing

theorem Guards.isFile_target (guards : l.Guards kept Nothing disk)
    (belongs : l.Belongs promotion) (isKept : kept name content)
    (same : l.definitionPlace name = l.place promotion.target) :
    disk.isFile promotion.target = .ok true := by
  have apart : l.definitionPlace name ≠ l.registryPlace := by
    rw [same, belongs.target]
    exact l.definedApart _ belongs.identifier
  obtain ⟨reaches, file⟩ := (defines_iff guards.current).mp (guards.defines isKept apart)
  rw [belongs.eq_of_place same] at reaches
  rw [same, place, ← Disk.destination_of_current guards.current] at file
  exact Disk.isFile_eq_true_iff.mpr ⟨reaches, content, file⟩

/-- Definitions are as they were where nothing is touched. -/
theorem Guards.definitions_spared {touched : Location → Prop}
    (guards : l.Guards kept lost disk) (spares : l.Spares touched disk later)
    (untouched : ∀ name, l.definitionPlace name ≠ l.registryPlace →
      ¬touched (l.definitionPlace name))
    (name : String) (content : Content) (isKept : kept name content)
    (apart : l.definitionPlace name ≠ l.registryPlace) :
    l.Defines later name content ∨ lost (l.definitionPlace name) ∧
      ¬l.Holds later (l.store.agentsDir.definitionFile name) := by
  have lasting : l.Lasting (l.definitionPlace name) := lasting_definitionFile _ name
  have current := spares.keeps.current.trans guards.current
  refine (guards.definitions name content isKept apart).imp ?_ ?_
  · intro defines
    obtain ⟨reaches, file⟩ := (defines_iff guards.current).mp defines
    exact (defines_iff current).mpr
      ⟨spares.keeps.reaches reaches, spares.node?_some lasting (untouched name apart) file⟩
  · rintro ⟨isLost, gone⟩
    refine ⟨isLost, fun holds => gone ?_⟩
    exact (spares.holds lasting (untouched name apart)).mp holds

theorem Tells.rewritten {touched : Location → Prop} (tells : l.Tells promotion disk)
    (rewrites : l.Rewrites touched disk later) (untouched : ¬touched l.journalPlace) :
    l.Tells promotion later where
  journals := tells.journals.spared rewrites.spares untouched
  noDirectory := fun made =>
    tells.noDirectory (rewrites.noneMade tells.journals.reaches _ made)

theorem Guards.rewritten {touched : Location → Prop} (guards : l.Guards kept lost disk)
    (rewrites : l.Rewrites touched disk later) (journal : ¬touched l.journalPlace)
    (untouched : ∀ name, l.definitionPlace name ≠ l.registryPlace →
      ¬touched (l.definitionPlace name)) : l.Guards kept lost later where
  current := rewrites.spares.keeps.current.trans guards.current
  journal := by
    intro holds
    obtain ⟨promotion, tells⟩ :=
      guards.journal ((rewrites.spares.holds l.lasting_journalPlace journal).mp holds)
    exact ⟨promotion, tells.rewritten rewrites journal⟩
  definitions := guards.definitions_spared rewrites.spares untouched

theorem Guards.rewritten_nothing (guards : l.Guards kept lost disk)
    (rewrites : l.Rewrites Nothing disk later) : l.Guards kept lost later :=
  guards.rewritten rewrites nofun fun _ _ => nofun

theorem Guards.reads (guards : l.Guards kept lost disk)
    (read : Promotion.read disk l.journal = .ok promotion) : l.Tells promotion disk := by
  obtain ⟨other, tells⟩ := guards.journal (holds_of_read guards.current read)
  rwa [← Except.ok.inj ((tells.journals.read guards.current).symm.trans read)]

/-! ## The parts of a promotion -/

theorem Guards.leads_writeJournal (guards : l.Guards kept lost disk)
    (belongs : l.Belongs promotion) (isFile : disk.isFile promotion.source = .ok true) :
    (l.store.writeJournal promotion).Leads disk
      ⟨fun _ later => l.Guards kept lost later ∧ l.Tells promotion later,
        fun _ => l.Guards kept lost, l.Guards kept lost⟩ := by
  obtain ⟨reaches, content, file⟩ := Disk.isFile_eq_true_iff.mp isFile
  rw [Disk.destination_of_current guards.current] at file
  rw [Store.writeJournal_eq l.journalPath]
  refine .mapFault ((leads_atomicWrite_beside guards.current (.inl rfl) _).mono ?_ ?_ ?_)
  · rintro _ later ⟨rewrites, reachesJournal, written⟩
    have spares := rewrites.spares
    have still : later.node? (l.place promotion.source) = some (.file content) :=
      spares.node?_some belongs.lends.lasting belongs.lends.ne_journalPlace file
    have tells : l.Tells promotion later :=
      ⟨⟨belongs, reachesJournal, written, spares.keeps.reaches reaches⟩,
        Disk.noDirectory_of_file still⟩
    refine ⟨⟨spares.keeps.current.trans guards.current, fun _ => ⟨promotion, tells⟩, ?_⟩, tells⟩
    exact guards.definitions_spared spares fun name _ => definitionFile_ne_journalPlace _ name
  · exact fun _ _ => guards.rewritten_nothing
  · exact fun _ => guards.rewritten_nothing

/-- No other definition that is to be kept is where the definition of a promotion goes. -/
def Free (l : Layout) (kept : String → Content → Prop) (promotion : Promotion) : Prop :=
  ∀ name content, kept name content → l.definitionPlace name = l.place promotion.target →
    l.place promotion.source = l.place promotion.target

theorem Tells.furnished {ways : Location → Prop} (tells : l.Tells promotion disk)
    (furnished : Disk.Furnished ways disk later)
    (file : disk.node? (l.place promotion.source) = some (.file content)) :
    l.Tells promotion later :=
  ⟨tells.journals.spared (.ofFurnished furnished : l.Spares Nothing disk later) nofun,
    Disk.noDirectory_of_file (furnished.node?_some file)⟩

theorem Tells.moved (tells : l.Tells promotion disk) (current : disk.current = l.start.current)
    (moved : Work.Moved promotion.source promotion.target content disk later) :
    l.Tells promotion later := by
  have node := node?_moved current moved
  have belongs := tells.journals.belongs
  obtain ⟨notSource, notTarget⟩ := not_or.mp belongs.journal_untouched
  refine ⟨⟨belongs, moved.keeps.reaches tells.journals.reaches, ?_,
    moved.keeps.reaches tells.journals.source⟩, ?_⟩
  · rw [node, if_neg notTarget, if_neg notSource]
    exact tells.journals.written
  · rw [node]
    split
    · nofun
    · rw [if_pos rfl]
      nofun

/-- Directories on the way to the target are not made where the definition comes from, as the
definition is there. -/
theorem Guards.furnished {ways : Location → Prop} (guards : l.Guards kept lost disk)
    (tells : l.Tells promotion disk) (furnished : Disk.Furnished ways disk later)
    (file : disk.node? (l.place promotion.source) = some (.file content)) :
    l.Guards kept lost later where
  current := furnished.current.trans guards.current
  journal := fun _ => ⟨promotion, tells.furnished furnished file⟩
  definitions :=
    guards.definitions_spared (.ofFurnished furnished : l.Spares Nothing disk later)
      fun _ _ => nofun

theorem Guards.moved (guards : l.Guards kept Nothing disk) (tells : l.Tells promotion disk)
    (free : l.Free kept promotion)
    (file : disk.node? (l.place promotion.source) = some (.file content))
    (moved : Work.Moved promotion.source promotion.target content disk later) :
    l.Guards kept (· = l.place promotion.source) later where
  current := moved.current.trans guards.current
  journal := fun _ => ⟨promotion, tells.moved guards.current moved⟩
  definitions := by
    intro name other isKept apart
    have node := node?_moved guards.current moved (l.definitionPlace name)
    obtain ⟨reaches, found⟩ := (defines_iff guards.current).mp (guards.defines isKept apart)
    rw [defines_iff (moved.current.trans guards.current)]
    by_cases atTarget : l.definitionPlace name = l.place promotion.target
    · -- The definition is moved to where it is.
      rw [free name other isKept atTarget, ← atTarget, found] at file
      cases file
      rw [if_pos atTarget] at node
      exact .inl ⟨moved.keeps.reaches reaches, node⟩
    · rw [if_neg atTarget] at node
      by_cases atSource : l.definitionPlace name = l.place promotion.source
      · rw [if_pos atSource] at node
        refine .inr ⟨atSource, ?_⟩
        rintro ⟨content, still⟩
        cases node.symm.trans still
      · rw [if_neg atSource, found] at node
        exact .inl ⟨moved.keeps.reaches reaches, node⟩

theorem Guards.leads_move (guards : l.Guards kept Nothing disk) (tells : l.Tells promotion disk)
    (free : l.Free kept promotion)
    (file : disk.node? (l.place promotion.source) = some (.file content)) :
    (Work.moveFile promotion.source promotion.target).Leads disk
      ⟨fun _ later => l.Guards kept (· = l.place promotion.source) later ∧ l.Tells promotion later,
        fun _ => l.Guards kept (· = l.place promotion.source),
        l.Guards kept (· = l.place promotion.source)⟩ := by
  have onTheWay {later : Disk}
      (furnished : Disk.Furnished (disk.OnWay promotion.target.parent) disk later) :
      l.Guards kept (· = l.place promotion.source) later :=
    (guards.furnished tells furnished file).mono fun _ => False.elim
  have fileNow : disk.node? (disk.destination promotion.source) = some (.file content) := by
    rwa [Disk.destination_of_current guards.current]
  refine (Work.leads_moveFile fileNow).mono ?_ (fun _ _ => onTheWay) fun _ => onTheWay
  rintro _ later ⟨between, furnished, moved⟩
  have tellsBetween := tells.furnished furnished file
  have guardsBetween := guards.furnished tells furnished file
  exact ⟨guardsBetween.moved tellsBetween free (furnished.node?_some file) moved,
    tellsBetween.moved guardsBetween.current moved⟩

/-- The registry is written. -/
theorem Guards.leads_save (guards : l.Guards kept lost disk) (table : Registry) :
    (l.store.save table).Leads disk
      ⟨fun _ later => l.Guards kept lost later ∧
          ∀ promotion, l.Tells promotion disk → l.Tells promotion later,
        fun _ => l.Guards kept lost, l.Guards kept lost⟩ := by
  unfold Store.save Store.writeRegistry
  refine Work.leads_ofExcept_bind ?_ fun _ _ => guards
  intro text _
  refine .mapFault ((leads_atomicWrite_beside guards.current (.inr rfl) text).mono ?_ ?_ ?_)
  · rintro _ later ⟨rewrites, _⟩
    have journal := l.journalPlace_ne_registryPlace
    exact ⟨guards.rewritten rewrites journal fun _ apart => apart,
      fun _ tells => tells.rewritten rewrites journal⟩
  · exact fun _ _ => guards.rewritten_nothing
  · exact fun _ => guards.rewritten_nothing

theorem Guards.leads_enroll (guards : l.Guards kept lost disk) (tells : l.Tells promotion disk) :
    (l.store.enroll promotion).Leads disk
      ⟨fun _ later => l.Guards kept lost later ∧ l.Tells promotion later,
        fun _ => l.Guards kept lost, l.Guards kept lost⟩ := by
  refine Store.leads_enroll tells.journals.belongs.told.named (fun _ => guards) fun _ _ => ?_
  refine (guards.leads_save _).mono ?_ (fun _ _ => id) fun _ => id
  exact fun _ later ⟨guardsLater, stillTells⟩ => ⟨guardsLater, stillTells promotion tells⟩

theorem Guards.leads_applyPromotion (guards : l.Guards kept Nothing disk)
    (tells : l.Tells promotion disk)
    (free : disk.isFile promotion.source = .ok true → l.Free kept promotion) :
    (l.store.applyPromotion promotion).Leads disk
      ⟨fun _ later => l.Guards kept (· = l.place promotion.source) later ∧ l.Tells promotion later,
        fun _ => l.Guards kept (· = l.place promotion.source),
        l.Guards kept (· = l.place promotion.source)⟩ := by
  have now : l.Guards kept (· = l.place promotion.source) disk := guards.mono fun _ => False.elim
  rw [Store.applyPromotion_eq]
  refine Work.leads_ask_bind ?_ fun _ _ => now
  intro isThere asked
  rw [Store.asks_eq_ok_iff] at asked
  split
  · rename_i yes
    rw [yes, Disk.pathExists_eq_true_iff] at asked
    obtain ⟨reaches, taken⟩ := asked
    obtain ⟨node, found⟩ := Option.isSome_iff_exists.mp taken
    have here := found
    rw [Disk.destination_of_current guards.current] at here
    cases node with
    | directory => exact absurd here tells.noDirectory
    | file content =>
        have free := free (Disk.isFile_eq_true_iff.mpr ⟨reaches, content, found⟩)
        refine (Work.Leads.mapFault (guards.leads_move tells free here)).bind ?_
          (fun _ _ => id) fun _ => id
        exact fun _ between ⟨guardsBetween, tellsBetween⟩ =>
          guardsBetween.leads_enroll tellsBetween
  · exact now.leads_enroll tells

theorem Guards.leads_clearJournal (guards : l.Guards kept lost disk)
    (tells : l.Tells promotion disk) :
    l.store.clearJournal.Leads disk (.anyhow (l.Guards kept lost)) := by
  have written := tells.journals.atJournal guards.current
  rw [Store.clearJournal_eq l.journalPath]
  refine .mapFault ((Work.leads_removeIfThere tells.journals.reaches written).mono ?_ ?_ ?_)
  · intro _ later alters
    have noDirectory := Disk.noDirectory_of_file written
    rw [Disk.destination_of_current guards.current] at alters noDirectory
    refine ⟨alters.current.trans guards.current, ?_, ?_⟩
    · rintro ⟨content, still⟩
      cases alters.here.symm.trans still
    · exact guards.definitions_spared (.ofAlters alters noDirectory)
        fun name _ => definitionFile_ne_journalPlace _ name
  · rintro _ _ rfl
    exact guards
  · rintro _ rfl
    exact guards

/-! ## Operations -/

theorem Guards.leads_complete {record : Log.Record} (guards : l.Guards kept Nothing disk)
    (tells : l.Tells promotion disk)
    (free : disk.isFile promotion.source = .ok true → l.Free kept promotion) :
    (do
      l.store.applyPromotion promotion
      l.store.clearJournal
      Work.tell record
      return true : Work Error Bool).Leads disk (.anyhow (l.Guards kept l.Lends)) := by
  have lends {later : Disk} (guardsLater : l.Guards kept (· = l.place promotion.source) later) :
      l.Guards kept l.Lends later := by
    refine guardsLater.mono ?_
    rintro _ rfl
    exact tells.journals.belongs.lends
  refine (guards.leads_applyPromotion tells free).bind ?_ (fun _ _ => lends) fun _ => lends
  rintro _ between ⟨guardsBetween, tellsBetween⟩
  refine (guardsBetween.leads_clearJournal tellsBetween).bind ?_ (fun _ _ => lends) fun _ => lends
  exact fun _ _ guardsLast => Work.leads_tell_bind (Work.leads_pure (lends guardsLast))

/-- A promotion is made only where nothing stands where the definition goes. -/
theorem Guards.leads_promote {today : Date} {newName : Option String}
    (guards : l.Guards kept Nothing disk) :
    (l.store.promote today name newName).Leads disk (.anyhow (l.Guards kept l.Lends)) := by
  have now : l.Guards kept l.Lends disk := guards.mono fun _ => False.elim
  refine Store.leads_promote (fun _ => now) now fun promotion decided => ?_
  obtain ⟨intends, _⟩ := Store.intends_of_intend decided
  have belongs := belongs_of_intends intends
  have free : l.Free kept promotion := by
    intro other content isKept same
    obtain ⟨reaches, _, file⟩ :=
      Disk.isFile_eq_true_iff.mp (guards.isFile_target belongs isKept same)
    have isFree := intends.free
    rw [Disk.pathExists_of_reaches reaches, file] at isFree
    cases isFree
  have lends {later : Disk} (guardsLater : l.Guards kept Nothing later) :
      l.Guards kept l.Lends later := guardsLater.mono fun _ => False.elim
  refine (guards.leads_writeJournal belongs intends.isFile).bind ?_ (fun _ _ => lends)
    fun _ => lends
  rintro _ between ⟨guardsBetween, tells⟩
  exact guardsBetween.leads_complete tells fun _ => free

/-- A recovery keeps what there is to be kept if the definition of the journal is not at both
its places. -/
theorem Guards.leads_recover (guards : l.Guards kept Nothing disk)
    (clear : ∀ name content, kept name content → l.Clear disk) :
    l.store.recover.Leads disk (.anyhow (l.Guards kept l.Lends)) := by
  have lends {later : Disk} (guardsLater : l.Guards kept Nothing later) :
      l.Guards kept l.Lends later := guardsLater.mono fun _ => False.elim
  refine Store.leads_recover l.journalPath (fun _ => lends guards) (fun _ => lends guards) ?_
  intro promotion read
  have tells := guards.reads read
  refine Store.leads_resume (fun _ => lends guards) (fun _ => ?_) fun record _ => ?_
  · exact (guards.leads_clearJournal tells).bind
      (fun _ _ guardsLater => Work.leads_pure (lends guardsLater)) (fun _ _ => lends)
      fun _ => lends
  · refine guards.leads_complete tells ?_
    intro isFile other content isKept same
    exact clear other content isKept promotion read
      (guards.isFile_target tells.journals.belongs isKept same) isFile

/-- The file of a temporary agent goes away. -/
theorem Guards.vacated {location : Location} (guards : l.Guards kept Nothing disk)
    (lends : l.Lends location) (alters : Disk.Alters location none disk later)
    (noDirectory : disk.node? location ≠ some .directory) : l.Guards kept l.Lends later where
  current := alters.current.trans guards.current
  journal := by
    intro holds
    have spares : l.Spares (· = location) disk later := .ofAlters alters noDirectory
    have journal : l.journalPlace ≠ location := Ne.symm lends.ne_journalPlace
    obtain ⟨promotion, tells⟩ :=
      guards.journal ((spares.holds l.lasting_journalPlace journal).mp holds)
    refine ⟨promotion, tells.journals.spared spares journal, ?_⟩
    rw [alters.node]
    split
    · nofun
    · exact tells.noDirectory
  definitions := by
    intro name content isKept apart
    by_cases here : l.definitionPlace name = location
    · refine .inr ⟨here ▸ lends, ?_⟩
      rintro ⟨content, still⟩
      cases (here ▸ alters.here : later.node? (l.definitionPlace name) = none).symm.trans still
    · obtain ⟨reaches, file⟩ := (defines_iff guards.current).mp (guards.defines isKept apart)
      refine .inl ((defines_iff (alters.current.trans guards.current)).mpr ⟨?_, ?_⟩)
      · exact (alters.keeps noDirectory).reaches reaches
      · rw [alters.elsewhere here, file]

theorem Guards.leads_deleteTemporary (guards : l.Guards kept Nothing disk) :
    (l.store.deleteTemporary name).Leads disk (.anyhow (l.Guards kept l.Lends)) := by
  have now : l.Guards kept l.Lends disk := guards.mono fun _ => False.elim
  refine Store.leads_deleteTemporary (fun _ => now) now now
    fun identifier _ later noDirectory alters => ?_
  refine guards.vacated ⟨name, identifier, ?_⟩ alters noDirectory
  exact Disk.destination_of_current guards.current _

theorem Guards.leads_incrementUsage (guards : l.Guards kept lost disk) :
    (l.store.incrementUsage name).Leads disk (.anyhow (l.Guards kept lost)) := by
  refine Store.leads_incrementUsage (fun _ _ => guards) (fun _ _ _ => guards) fun _ _ _ _ => ?_
  exact (guards.leads_save _).mono (fun _ _ => And.left) (fun _ _ => id) fun _ => id

/-- Whatever an operation meets, what there is to be kept is kept. -/
theorem Guards.leads_operate (guards : l.Guards kept Nothing disk) (operation : Operation)
    (clear : operation = .recover → ∀ name content, kept name content → l.Clear disk) :
    (l.store.operate operation).Leads disk (.anyhow (l.Guards kept l.Lends)) := by
  have now : l.Guards kept l.Lends disk := guards.mono fun _ => False.elim
  have asks {α : Type} (question : Disk → Except Error α) (answer : α → Answer) :
      (Work.ask question >>= fun a => pure (answer a)).Leads disk
        (.anyhow (l.Guards kept l.Lends)) :=
    Work.leads_ask_bind (fun _ _ => Work.leads_pure now) fun _ _ => now
  cases operation with
  | promote today name newName =>
      exact guards.leads_promote.bind_anyhow fun _ _ => Work.leads_pure_anyhow
  | deleteTemporary name =>
      exact guards.leads_deleteTemporary.bind_anyhow fun _ _ => Work.leads_pure_anyhow
  | incrementUsage name => exact now.leads_incrementUsage.bind_anyhow fun _ _ => Work.leads_pure_anyhow
  | recover => exact (guards.leads_recover (clear rfl)).bind_anyhow fun _ _ => Work.leads_pure_anyhow
  | load => exact asks _ _
  | get name => exact asks _ _
  | listDefined => exact asks _ _
  | listTemporary => exact asks _ _

/-! ## Histories -/

/-- The directories that a new temporary definition needs are there if the definition of the
journal comes from among the temporary ones. -/
theorem Guards.appears (guards : l.Guards kept lost disk)
    (nothing : ∀ name content, ¬kept name content) (appears : l.Appears name disk later) :
    l.Guards kept lost later where
  current := appears.spares.keeps.current.trans guards.current
  journal := by
    have journal : l.journalPlace ≠ l.place (l.store.temporaryDir.definitionFile name) :=
      Ne.symm (definitionFile_ne_journalPlace _ name)
    intro holds
    obtain ⟨promotion, tells⟩ :=
      guards.journal ((appears.spares.holds l.lasting_journalPlace journal).mp holds)
    refine ⟨promotion, tells.journals.spared appears.spares journal, ?_⟩
    obtain ⟨sourceName, identifier, source⟩ := tells.journals.belongs.source
    have reaches := tells.journals.source
    rw [source, Store.temporaryPath, definitionPath_eq_definitionFile identifier] at reaches
    obtain ⟨between, content, furnished, _, free, rfl⟩ := appears
    have noneMade : NoneMade disk between := by
      refine .ofFurnished furnished fun location onWay => ?_
      refine reaches.directory_of_onWay (List.append_ne_nil_of_right_ne_nil _ (by simp)) ?_
      rwa [Path.parent_definitionFile]
    have noDirectory := Disk.noDirectory_of_none free
    exact fun made => tells.noDirectory
      (noneMade.trans (.ofAlters (Disk.alters_put noDirectory (.file content)) nofun) _ made)
  definitions := fun name content isKept _ => absurd isKept (nothing name content)

/-- Wherever the calls of a history stopped, its journal can be followed. -/
theorem History.guards (rests : ¬l.Holds l.start l.journal) (history : l.History l.start disk) :
    l.Guards (fun _ _ => False) Nothing disk := by
  induction history with
  | refl => exact ⟨rfl, fun holds => absurd holds rests, nofun⟩
  | tail _ goes induction =>
      cases goes with
      | operates _ operation mishaps =>
          have holds := (induction.leads_operate operation fun _ _ _ => False.elim).anyhow
            ⟨_, mishaps, [], []⟩ rfl
          exact ⟨holds.current, holds.journal, nofun⟩
      | appears appears => exact induction.appears (fun _ _ => id) appears

end Layout

end AgentFlow
