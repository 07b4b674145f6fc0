import AgentFlow.Proofs.Agent.Commit
import AgentFlow.Proofs.Agent.Counting

/-!
# What operations do

What an operation answers and does is told by what it asks about the disk.  It moves a definition
and registers it, or removes a definition, or counts a use, or it leaves definitions and table
alone.  A run without mishaps does what is told, and leaves a tidy store tidy.
-/

namespace AgentFlow

open AgentFlow.Text

namespace Registry

variable {table : Registry} {name other : String}

end Registry

/-- What an operation does to the definitions and to the table. -/
inductive Deed where
  | nothing
  | moved (source target : Location) (content : Content) (entry : Entry)
  | removed (location : Location)
  | counted (name : String)

namespace Deed

/-- The files that are different afterwards, with what is in them. -/
def edits : Deed → List (Location × Option Content)
  | .moved source target content _ => [(source, none), (target, some content)]
  | .removed location => [(location, none)]
  | .nothing | .counted _ => []

/-- The table afterwards. -/
def table : Deed → Registry → Registry
  | .moved _ _ _ entry => Registry.insert entry.agentName entry
  | .counted name => Registry.count name
  | .nothing | .removed _ => id

/-- Whether a file is one of those that are different afterwards. -/
def Edits (deed : Deed) (location : Location) : Prop :=
  ∃ content, (location, content) ∈ deed.edits

theorem not_edits_nothing {location : Location} : ¬nothing.Edits location :=
  fun ⟨_, member⟩ => nomatch member

theorem not_edits_counted {name : String} {location : Location} : ¬(counted name).Edits location :=
  fun ⟨_, member⟩ => nomatch member

theorem edits_moved {source target location : Location} {content : Content} {entry : Entry} :
    (moved source target content entry).Edits location ↔
      location = source ∨ location = target := by
  simp [Edits, edits, exists_or]

theorem edits_removed {place location : Location} :
    (removed place).Edits location ↔ location = place := by
  simp [Edits, edits]

end Deed

namespace Store

/-- What an operation answers, if it answers at all, and what it does. -/
inductive Does (store : Store) (journal : Path) (disk : Disk) :
    Operation → Option Answer → Deed → Prop
  | refused {today name newName e} :
      store.intend today name newName disk = .error e →
      Does store journal disk (.promote today name newName) none .nothing
  | declined {today name newName record} :
      store.intend today name newName disk = .ok (.error record) →
      Does store journal disk (.promote today name newName) (some (.flag false)) .nothing
  | unprepared {today name newName promotion} :
      store.intend today name newName disk = .ok (.ok promotion) →
      ¬disk.Prepared journal promotion.target →
      Does store journal disk (.promote today name newName) none .nothing
  | promoted {today name newName promotion content} :
      store.intend today name newName disk = .ok (.ok promotion) →
      disk.Prepared journal promotion.target →
      disk.node? (disk.destination promotion.source) = some (.file content) →
      Does store journal disk (.promote today name newName) (some (.flag true))
        (.moved (disk.destination promotion.source) (disk.destination promotion.target) content
          promotion.entry)
  | unlisted {name table} :
      store.load disk = .ok table → table.get? name = none →
      Does store journal disk (.incrementUsage name) (some .nothing) .nothing
  | unwritable {name table entry} :
      store.load disk = .ok table → table.get? name = some entry →
      ¬((∃ n, Disk.Fits (Work.temporaryBeside store.registryPath n)) ∧ entry.used.IsCountable) →
      Does store journal disk (.incrementUsage name) none .nothing
  | counted {name table entry} :
      store.load disk = .ok table → table.get? name = some entry →
      (∃ n, Disk.Fits (Work.temporaryBeside store.registryPath n)) → entry.used.IsCountable →
      Does store journal disk (.incrementUsage name) (some .nothing) (.counted name)
  | unasked {name e} :
      store.hasTemporary disk name = .error e →
      Does store journal disk (.deleteTemporary name) none .nothing
  | absent {name} :
      store.hasTemporary disk name = .ok false →
      Does store journal disk (.deleteTemporary name) (some (.flag false)) .nothing
  | deleted {name} :
      store.hasTemporary disk name = .ok true →
      Does store journal disk (.deleteTemporary name) (some (.flag true))
        (.removed (disk.destination (store.temporaryPath name)))

variable {store : Store} {disk later : Disk} {journal : Path} {operation : Operation}
  {answer : Option Answer} {deed : Deed} {table : Registry} {name : String}

/-- A deed was done, by an operation of which only a promotion makes directories. -/
structure Follows (store : Store) (journal : Path) (operation : Operation) (deed : Deed)
    (disk later : Disk) : Prop where
  tidy : store.Tidy later
  reshapes : store.Reshapes (fun location => location = disk.destination journal ∨
    location = disk.destination store.registryPath ∨ deed.Edits location) disk later
  edited : ∀ location content, (location, content) ∈ deed.edits → ∀ found,
    later.node? location = some (.file found) ↔ content = some found
  aside : ∀ location, deed.Edits location → ¬store.OnWays disk location
  lends : store.Lends disk ∨ Layout.NoneMade disk later
  makes : Layout.NoneMade disk later ∨ ∃ today name newName, operation = .promote today name newName
  loaded : ∀ table, store.load disk = .ok table → store.load later = .ok (deed.table table)

theorem Follows.refl (tidy : store.Tidy disk) :
    store.Follows journal operation .nothing disk disk where
  tidy := tidy
  reshapes := .refl disk
  edited := nofun
  aside := fun _ edits => absurd edits Deed.not_edits_nothing
  lends := .inr fun _ => id
  makes := .inl fun _ => id
  loaded := fun _ loaded => loaded

/-! ## What a deed leaves -/

section Leaves

variable {promotion : Promotion} {content : Content}

/-- A promotion that fails leaves its journal and directories. -/
theorem Follows.ofSpoiled (tidy : store.Tidy disk) (journalPath : store.journalPath = .ok journal)
    (lends : store.Lends disk) {today : Date} {newName : Option String}
    (reshapes : store.Reshapes (· = disk.destination journal) disk later) :
    store.Follows journal (.promote today name newName) .nothing disk later where
  tidy := tidy.reshaped reshapes
    (fun here => absurd here.symm (journal_ne_registry journalPath disk))
    fun _ identifier here => absurd here.symm (journal_ne_definition journalPath disk identifier)
  reshapes := reshapes.mono fun _ => .inl
  edited := nofun
  aside := fun _ edits => absurd edits Deed.not_edits_nothing
  lends := .inl lends
  makes := .inr ⟨_, _, _, rfl⟩
  loaded := fun table loaded => by
    rw [tidy.load_eq reshapes (Ne.symm (journal_ne_registry journalPath disk)), loaded]
    rfl

theorem Follows.ofCommitted (tidy : store.Tidy disk) (journalPath : store.journalPath = .ok journal)
    (intends : store.Intends name disk promotion) (loaded : store.load disk = .ok table)
    {today : Date} {other : String} {newName : Option String}
    (committed : store.Committed journal promotion content table disk later) :
    store.Follows journal (.promote today other newName)
      (.moved (disk.destination promotion.source) (disk.destination promotion.target) content
        promotion.entry) disk later where
  tidy := by
    refine tidy.reshaped committed.reshapes (fun _ _ => committed.keeps.reaches) ?_
    rintro other identifier (journal | registry | source | target) _
    · exact absurd journal.symm (journal_ne_definition journalPath disk identifier)
    · exact absurd registry (tidy.distinct.defined other identifier)
    · rw [intends.source] at source
      exact absurd source.symm (tidy.distinct.apart intends.nameIsIdentifier identifier)
    · have reaches := committed.reaches
      rw [intends.target] at target reaches
      rwa [Disk.destination_definition_inj identifier intends.targetIsIdentifier target]
  reshapes := committed.reshapes.mono fun location touched => by
    rwa [Deed.edits_moved]
  edited := by
    intro location edited member found
    simp only [Deed.edits, List.mem_cons, List.not_mem_nil, or_false, Prod.mk.injEq] at member
    rcases member with ⟨rfl, rfl⟩ | ⟨rfl, rfl⟩
    · simp [committed.gone]
    · simp [committed.arrived]
  aside := by
    intro location edits
    rcases Deed.edits_moved.mp edits with rfl | rfl
    · exact intends.source_aside tidy
    · exact intends.target_aside tidy
  lends := by
    have isFile := intends.isFile
    rw [intends.source] at isFile
    exact .inl (lends_of_isFile intends.nameIsIdentifier isFile)
  makes := .inr ⟨_, _, _, rfl⟩
  loaded := by
    intro loadedTable again
    obtain rfl := Except.ok.inj (loaded.symm.trans again)
    exact committed.keeps.loaded

/-- Where the registry lists an agent, a table that is not saved leaves nothing. -/
theorem Follows.ofFurnished (tidy : store.Tidy disk) {entry : Entry}
    (loaded : store.load disk = .ok table) (found : table.get? name = some entry)
    (furnished : Disk.Furnished (disk.OnWay store.registryPath.parent) disk later) :
    store.Follows journal operation .nothing disk later := by
  have reshapes : store.Reshapes Layout.Nothing disk later :=
    .ofFurnished furnished fun _ => .inr
  have noneMade : Layout.NoneMade disk later :=
    (@Sidesteps.ofFurnished store _ _ _ furnished).noneMade (registry_ways_taken loaded found)
  refine ⟨tidy.reshaped reshapes False.elim fun _ _ => False.elim, reshapes.mono fun _ => False.elim,
    nofun, fun _ edits => absurd edits Deed.not_edits_nothing, .inr noneMade, .inl noneMade, ?_⟩
  intro loadedTable again
  rw [tidy.load_eq reshapes id, again]
  rfl

theorem Follows.ofWritten (tidy : store.Tidy disk) {entry : Entry} {text : String}
    {between : Disk} (loaded : store.load disk = .ok table)
    (found : table.get? name = some entry)
    (furnished : Disk.Furnished (disk.OnWay store.registryPath.parent) disk between)
    (written : Work.Written store.registryPath text between later)
    (counted : store.load later = .ok (table.count name)) :
    store.Follows journal operation (.counted name) disk later := by
  have reshapes := Reshapes.ofWritten rfl furnished written
  have noneMade : Layout.NoneMade disk later :=
    ((@Sidesteps.ofFurnished store _ _ _ furnished).noneMade
      (registry_ways_taken loaded found)).trans (.ofAlters written.alters nofun)
  refine ⟨tidy.reshaped reshapes (fun _ _ => written.reaches) ?_, reshapes.mono fun _ => .inr ∘ .inl,
    nofun, fun _ edits => absurd edits Deed.not_edits_counted, .inr noneMade, .inl noneMade, ?_⟩
  · exact fun _ identifier here => absurd here (tidy.distinct.defined _ identifier)
  · intro loadedTable again
    obtain rfl := Except.ok.inj (loaded.symm.trans again)
    exact counted

theorem Follows.ofRemoved (tidy : store.Tidy disk) (identifier : isIdentifier name = true)
    (file : disk.node? (disk.destination (store.temporaryPath name)) = some (.file content))
    (alters : Disk.Alters (disk.destination (store.temporaryPath name)) none disk later) :
    store.Follows journal operation (.removed (disk.destination (store.temporaryPath name)))
      disk later := by
  have noDirectory := Disk.noDirectory_of_file file
  have reshapes : store.Reshapes (· = disk.destination (store.temporaryPath name)) disk later :=
    .ofAlters alters noDirectory nofun rfl
  have noneMade : Layout.NoneMade disk later := .ofAlters alters nofun
  have registryNe : ¬disk.destination store.registryPath =
      disk.destination (store.temporaryPath name) :=
    Ne.symm (tidy.distinct.temporary name identifier)
  refine ⟨tidy.reshaped reshapes (fun here => absurd here registryNe) ?_,
    reshapes.mono fun _ here => .inr (.inr (Deed.edits_removed.mpr here)), ?_, ?_, .inr noneMade,
    .inl noneMade, fun _ again => ?_⟩
  · exact fun other definedIdentifier here =>
      absurd here.symm (tidy.distinct.apart identifier definedIdentifier)
  · intro location edited member found
    simp only [Deed.edits, List.mem_singleton, Prod.mk.injEq] at member
    obtain ⟨rfl, rfl⟩ := member
    simp [alters.here]
  · intro location edits
    rw [Deed.edits_removed.mp edits]
    exact tidy.temporary_aside identifier
  · rw [tidy.load_eq reshapes registryNe, again]
    rfl

end Leaves

/-! ## Runs without mishaps -/

theorem bounded_save (store : Store) (table : Registry) :
    (store.save table).Bounded (2 * store.registryPath.parts.length + 6) := by
  refine Work.Bounded.mono ((Work.bounded_ofExcept _).bind fun text =>
    (Work.bounded_atomicWrite _ text).mapFault) ?_
  omega

theorem bounded_commit (journalPath : store.journalPath = .ok journal) {promotion : Promotion}
    (intends : store.Intends name disk promotion) :
    (store.commit name promotion).Bounded store.growth := by
  have sameLength := journal_parts_length journalPath
  have targetLength := intends.length_target
  have writes : (store.writeJournal promotion).Bounded (2 * journal.parts.length + 6) := by
    rw [writeJournal_eq journalPath]
    exact (Work.bounded_atomicWrite _ _).mapFault
  have enrolls : (store.enroll promotion).Bounded (2 * store.registryPath.parts.length + 6) :=
    ((Work.bounded_ask _).bind fun _ => (Work.bounded_ofExcept _).bind fun registered =>
      store.bounded_save registered).mono (by omega)
  have applies : (store.applyPromotion promotion).Bounded
      (0 + (2 * promotion.target.parts.length + 2 +
        (2 * store.registryPath.parts.length + 6))) := by
    rw [applyPromotion_eq]
    refine (Work.bounded_ask _).bind fun isThere => ?_
    split
    · exact (Work.bounded_moveFile _ _).mapFault.bind fun _ => enrolls
    · exact enrolls.mono (by omega)
  have clears : store.clearJournal.Bounded 1 := by
    rw [clearJournal_eq journalPath]
    exact (Work.bounded_removeIfThere journal).mapFault
  refine Work.Bounded.mono (writes.bind fun _ => applies.bind fun _ => clears.bind fun _ =>
    (Work.bounded_tell _).bind fun _ => Work.bounded_pure true) ?_
  unfold growth
  omega

theorem bounded_incrementUsage (store : Store) (name : String) :
    (store.incrementUsage name).Bounded store.growth := by
  have fewer : 0 + (2 * store.registryPath.parts.length + 6 + 0) ≤ store.growth := by
    unfold growth
    omega
  refine Work.Bounded.mono ((Work.bounded_ask _).bind fun table => ?_) fewer
  split
  · exact (Work.bounded_tell _).mono (Nat.zero_le _)
  · exact (store.bounded_save _).bind fun _ => Work.bounded_tell _

theorem bounded_deleteTemporary (store : Store) (name : String) :
    (store.deleteTemporary name).Bounded store.growth := by
  have fewer : 0 + (1 + (0 + 0)) ≤ store.growth := by
    unfold growth
    omega
  refine Work.Bounded.mono ((Work.bounded_ask _).bind fun isThere => ?_) fewer
  split
  · exact (Work.bounded_perform _).mapFault.bind fun _ =>
      (Work.bounded_tell _).bind fun _ => Work.bounded_pure true
  · exact (Work.bounded_pure false).mono (Nat.zero_le _)

/-- An operation that meets no mishaps gives an answer, or none, and does a deed. -/
structure Runs (store : Store) (journal : Path) (disk : Disk) (operation : Operation)
    (answer : Option Answer) (deed : Deed) : Prop where
  answered : (store.operated disk operation []).1.toOption = answer
  follows : store.Follows journal operation deed disk (store.operated disk operation []).2.disk
  few : (store.operated disk operation []).2.disk.nodes.length ≤ disk.nodes.length + store.growth

theorem Runs.ofEnded {result : Except (Halt Error) Answer} {last : Machine}
    (ended : store.operated disk operation [] = (result, last))
    (follows : store.Follows journal operation deed disk last.disk)
    (few : last.disk.nodes.length ≤ disk.nodes.length + store.growth) :
    store.Runs journal disk operation result.toOption deed := by
  constructor
  all_goals rw [ended]
  · exact follows
  · exact few

theorem Runs.ofUntouched {result : Except (Halt Error) Answer} {last : Machine}
    (tidy : store.Tidy disk) (ended : store.operated disk operation [] = (result, last))
    (untouched : last.disk = disk) :
    store.Runs journal disk operation result.toOption .nothing := by
  refine .ofEnded ended ?_ ?_
  · rw [untouched]
    exact .refl tidy
  · rw [untouched]
    exact Nat.le_add_right _ _

theorem runs_promote (journalPath : store.journalPath = .ok journal) (tidy : store.Tidy disk)
    (loaded : store.load disk = .ok table)
    (room : disk.nodes.length + store.growth < Work.serials) {today : Date}
    {newName : Option String}
    (does : store.Does journal disk (.promote today name newName) answer deed) :
    store.Runs journal disk (.promote today name newName) answer deed := by
  have operated_eq : store.operated disk (.promote today name newName) [] =
      ((store.promote today name newName ⟨disk, [], [], []⟩).1.map .flag,
        (store.promote today name newName ⟨disk, [], [], []⟩).2) :=
    Work.bind_pure_run _ _ _
  cases does with
  | refused decided =>
      rw [@promote_of_error _ _ _ _ ⟨disk, [], [], []⟩ _ decided] at operated_eq
      exact .ofUntouched tidy operated_eq rfl
  | declined decided =>
      rw [@promote_of_record _ _ _ _ ⟨disk, [], [], []⟩ _ decided] at operated_eq
      exact .ofUntouched tidy operated_eq rfl
  | @unprepared _ _ _ promotion decided unprepared =>
      obtain ⟨intends, _⟩ := intends_of_intend decided
      have isFile := intends.isFile
      rw [intends.source] at isFile
      rw [@promote_of_promotion _ _ _ _ ⟨disk, [], [], []⟩ _ decided] at operated_eq
      have bounded := bounded_commit journalPath intends
      obtain ⟨_, _, impossible⟩ | ⟨e, failed, reshapes⟩ := @Work.Bounded.ended _ _ _ _ _
        ⟨disk, [], [], []⟩ bounded (leads_commit_unprepared journalPath intends unprepared) rfl
      · exact impossible.elim
      · rw [failed] at operated_eq
        have lends := lends_of_isFile intends.nameIsIdentifier isFile
        exact .ofEnded operated_eq (.ofSpoiled tidy journalPath lends reshapes) (bounded _ rfl).2.1
  | @promoted _ _ _ promotion content decided prepared file =>
      obtain ⟨intends, _⟩ := intends_of_intend decided
      rw [@promote_of_promotion _ _ _ _ ⟨disk, [], [], []⟩ _ decided] at operated_eq
      obtain ⟨_, last, ended, _, rfl, committed⟩ := completes_commit tidy journalPath intends file
        loaded prepared room ⟨disk, [], [], []⟩ rfl rfl
      have few := (bounded_commit journalPath intends ⟨disk, [], [], []⟩ rfl).2.1
      rw [ended] at operated_eq few
      exact .ofEnded operated_eq (.ofCommitted tidy journalPath intends loaded committed) few

/-- A use that cannot be counted leaves at most directories. -/
theorem leads_incrementUsage_unwritable {entry : Entry} (loaded : store.load disk = .ok table)
    (found : table.get? name = some entry)
    (unwritable : ¬((∃ n, Disk.Fits (Work.temporaryBeside store.registryPath n)) ∧
      entry.used.IsCountable)) :
    (store.incrementUsage name).Leads disk
      ⟨fun _ _ => False,
        fun _ later => Disk.Furnished (disk.OnWay store.registryPath.parent) disk later,
        fun _ => True⟩ := by
  have distinct := (wellFormed_of_load loaded).distinct
  refine leads_incrementUsage (fun _ _ => .refl disk) (fun again loadedAgain absent => ?_)
    fun again other loadedAgain foundAgain => ?_
  · obtain rfl := Except.ok.inj (loaded.symm.trans loadedAgain)
    cases found.symm.trans absent
  obtain rfl := Except.ok.inj (loaded.symm.trans loadedAgain)
  obtain rfl := Option.some.inj (found.symm.trans foundAgain)
  refine (leads_save _).mono ?_ (fun _ _ => id) fun _ _ => trivial
  rintro _ later ⟨short, between, _, written⟩
  have countable : (table.insert name entry.used).Countable :=
    Registry.isCountable_of_longInteger? short
  refine absurd ⟨written.temporary, countable name entry.used ?_⟩ unwritable
  have inserted : (table.insert name entry.used).get? name = some entry.used := by
    rw [Registry.get?_insert, if_pos rfl]
  obtain ⟨before, after, whole, _⟩ := List.lookup_eq_some_iff.mp inserted
  rw [whole]
  exact List.mem_append_right before List.mem_cons_self

/-- A use that can be counted is counted. -/
theorem completes_incrementUsage_written {entry : Entry} (tidy : store.Tidy disk)
    (loaded : store.load disk = .ok table) (found : table.get? name = some entry)
    (temporary : ∃ n, Disk.Fits (Work.temporaryBeside store.registryPath n))
    (isCountable : entry.used.IsCountable) (room : disk.nodes.length < Work.serials) :
    (store.incrementUsage name).Completes disk fun _ later =>
      store.load later = .ok (table.count name) ∧ ∃ text between,
        Disk.Furnished (disk.OnWay store.registryPath.parent) disk between ∧
          Work.Written store.registryPath text between later := by
  have wellFormed := wellFormed_of_load loaded
  have counted : table.insert name entry.used = table.count name :=
    Registry.insert_used wellFormed.distinct found
  have countable : (table.insert name entry.used).Countable :=
    (countable_of_load loaded).insert isCountable
  obtain ⟨reaches, content, file⟩ := (file_of_load loaded).resolve_left (by
    rintro rfl
    cases found)
  have saves := ((completes_save_over countable reaches file tidy.named temporary room).leads
    (leads_save _)).leads (leads_save_keeps (counted ▸ wellFormed.count name))
  refine completes_incrementUsage_of_found loaded found (saves.mono ?_)
  rintro _ later ⟨keeps, ⟨_, between, furnished, written⟩, _⟩
  rw [← counted]
  exact ⟨keeps.loaded, _, between, furnished, written⟩

theorem runs_incrementUsage (tidy : store.Tidy disk)
    (room : disk.nodes.length + store.growth < Work.serials)
    (does : store.Does journal disk (.incrementUsage name) answer deed) :
    store.Runs journal disk (.incrementUsage name) answer deed := by
  have operated_eq : store.operated disk (.incrementUsage name) [] =
      ((store.incrementUsage name ⟨disk, [], [], []⟩).1.map fun _ => .nothing,
        (store.incrementUsage name ⟨disk, [], [], []⟩).2) :=
    Work.bind_pure_run _ _ _
  have bounded := store.bounded_incrementUsage name
  cases does with
  | @unlisted _ table loaded absent =>
      obtain ⟨record, ended⟩ :=
        @incrementUsage_of_absent _ _ _ ⟨disk, [], [], []⟩ loaded absent
      rw [ended] at operated_eq
      exact .ofUntouched tidy operated_eq rfl
  | @unwritable _ table entry loaded found unwritable =>
      obtain ⟨_, _, impossible⟩ | ⟨e, failed, furnished⟩ := @Work.Bounded.ended _ _ _ _ _
        ⟨disk, [], [], []⟩ bounded (leads_incrementUsage_unwritable loaded found unwritable) rfl
      · exact impossible.elim
      · rw [failed] at operated_eq
        exact .ofEnded operated_eq (.ofFurnished tidy loaded found furnished) (bounded _ rfl).2.1
  | @counted _ table entry loaded found temporary isCountable =>
      obtain ⟨_, last, ended, _, countedLast, _, between, furnished, written⟩ :=
        completes_incrementUsage_written tidy loaded found temporary isCountable (by omega)
          ⟨disk, [], [], []⟩ rfl rfl
      have few := (bounded ⟨disk, [], [], []⟩ rfl).2.1
      rw [ended] at operated_eq few
      exact .ofEnded operated_eq (.ofWritten tidy loaded found furnished written countedLast) few

/-- A temporary agent that is there is removed. -/
theorem completes_deleteTemporary (asked : store.hasTemporary disk name = .ok true) :
    (store.deleteTemporary name).Completes disk fun done later =>
      done = true ∧ Disk.Alters (disk.destination (store.temporaryPath name)) none disk later := by
  obtain ⟨reaches, content, file⟩ := Disk.isFile_eq_true_iff.mp (hasTemporary_eq_true asked).2
  unfold deleteTemporary
  refine Work.completes_ask_bind asked ?_
  rw [if_pos rfl]
  have removes : (Work.perform (.remove (store.temporaryPath name))).Completes disk
      fun _ later => Disk.Alters (disk.destination (store.temporaryPath name)) none disk later :=
    Work.completes_perform (Change.apply_remove_eq_ok_iff.mpr ⟨reaches, content, file, rfl⟩)
      (Disk.alters_erase (Disk.noDirectory_of_file file))
  refine removes.mapFault.bind fun _ later alters => ?_
  exact Work.completes_tell_bind (Work.completes_pure ⟨rfl, alters⟩)

theorem runs_deleteTemporary (tidy : store.Tidy disk)
    (does : store.Does journal disk (.deleteTemporary name) answer deed) :
    store.Runs journal disk (.deleteTemporary name) answer deed := by
  have operated_eq : store.operated disk (.deleteTemporary name) [] =
      ((store.deleteTemporary name ⟨disk, [], [], []⟩).1.map .flag,
        (store.deleteTemporary name ⟨disk, [], [], []⟩).2) :=
    Work.bind_pure_run _ _ _
  cases does with
  | unasked asked =>
      have ended : store.deleteTemporary name ⟨disk, [], [], []⟩ = _ :=
        Work.ask_bind_of_error asked
      rw [ended] at operated_eq
      exact .ofUntouched tidy operated_eq rfl
  | absent asked =>
      have ended : store.deleteTemporary name ⟨disk, [], [], []⟩ = _ := Work.ask_bind_of_ok asked
      rw [ended] at operated_eq
      exact .ofUntouched tidy operated_eq rfl
  | deleted asked =>
      obtain ⟨identifier, isFile⟩ := hasTemporary_eq_true asked
      obtain ⟨reaches, content, file⟩ := Disk.isFile_eq_true_iff.mp isFile
      obtain ⟨_, last, ended, _, rfl, alters⟩ :=
        completes_deleteTemporary asked ⟨disk, [], [], []⟩ rfl rfl
      have few := (store.bounded_deleteTemporary name ⟨disk, [], [], []⟩ rfl).2.1
      rw [ended] at operated_eq few
      exact .ofEnded operated_eq (.ofRemoved tidy identifier file alters) few

end Store

end AgentFlow
