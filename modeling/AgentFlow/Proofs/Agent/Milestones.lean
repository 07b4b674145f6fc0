import AgentFlow.Proofs.Agent.Persistence
import AgentFlow.Proofs.Agent.Tidy

/-!
# Milestones of a promotion

A promotion writes its journal, moves the definition, saves the table and removes the journal.
As long as its parts come to their ends, a few facts tell what stands where, and each milestone
follows from the one before and from what the next part has done.
-/

namespace AgentFlow

open AgentFlow.Text

namespace Store

variable {store : Store} {disk between later : Disk} {touched : Location → Prop}
  {name target : String} {table : Registry} {journal : Path} {promotion : Promotion}
  {content : Content}

/-! ## The places of a promotion -/

/-- The two directories are different ones, and the registry is neither the definition that is
promoted nor where it goes.  A registry file is reached by its path wherever it stands. -/
structure Separate (store : Store) (name target : String) (disk : Disk) : Prop where
  directories : disk.destination store.agentsDir ≠ disk.destination store.temporaryDir
  source : disk.destination (store.temporaryPath name) ≠ disk.destination store.registryPath
  target : disk.destination (store.definedPath target) ≠ disk.destination store.registryPath
  registry : disk.Seen store.registryPath

theorem Tidy.separate (tidy : store.Tidy disk) (identifier : isIdentifier name = true)
    (targetIsIdentifier : isIdentifier target = true) : store.Separate name target disk where
  directories := tidy.distinct.directories
  source := tidy.distinct.temporary name identifier
  target := tidy.distinct.defined target targetIsIdentifier
  registry := fun _ file => tidy.registry (by rw [file]; exact Option.some_ne_none _)

theorem parent_definedPath (identifier : isIdentifier name = true) :
    (store.definedPath name).parent = store.agentsDir := by
  rw [definedPath, definitionPath_eq identifier]
  simp [Path.parent]

theorem named_definedPath (identifier : isIdentifier name = true) :
    (store.definedPath name).parts ≠ [] := by
  rw [definedPath, definitionPath_eq identifier]
  simp

namespace Intends

variable (intends : store.Intends name disk promotion)

include intends

theorem parent_target : promotion.target.parent = store.agentsDir := by
  rw [intends.target]
  exact parent_definedPath intends.targetIsIdentifier

theorem length_target : promotion.target.parts.length = store.agentsDir.parts.length + 1 := by
  rw [intends.target, definedPath, definitionPath_eq intends.targetIsIdentifier,
    List.length_append]
  rfl

theorem source_ne_journal (journalPath : store.journalPath = .ok journal) :
    disk.destination promotion.source ≠ disk.destination journal := by
  rw [intends.source]
  exact Ne.symm (journal_ne_definition journalPath disk intends.nameIsIdentifier)

theorem target_ne_journal (journalPath : store.journalPath = .ok journal) :
    disk.destination promotion.target ≠ disk.destination journal := by
  rw [intends.target]
  exact Ne.symm (journal_ne_definition journalPath disk intends.targetIsIdentifier)

theorem source_ne_registry
    (separate : store.Separate name promotion.entry.agentName disk) :
    disk.destination promotion.source ≠ disk.destination store.registryPath := by
  rw [intends.source]
  exact separate.source

theorem target_ne_registry
    (separate : store.Separate name promotion.entry.agentName disk) :
    disk.destination promotion.target ≠ disk.destination store.registryPath := by
  rw [intends.target]
  exact separate.target

theorem source_ne_target (separate : store.Separate name promotion.entry.agentName disk) :
    disk.destination promotion.source ≠ disk.destination promotion.target := by
  rw [intends.source, intends.target]
  exact temporary_ne_defined separate.directories intends.nameIsIdentifier
    intends.targetIsIdentifier

theorem separate (tidy : store.Tidy disk) :
    store.Separate name promotion.entry.agentName disk :=
  tidy.separate intends.nameIsIdentifier intends.targetIsIdentifier

theorem source_aside (tidy : store.Tidy disk) :
    ¬store.OnWays disk (disk.destination promotion.source) := by
  rw [intends.source]
  exact tidy.temporary_aside intends.nameIsIdentifier

theorem target_aside (tidy : store.Tidy disk) :
    ¬store.OnWays disk (disk.destination promotion.target) := by
  rw [intends.target]
  exact tidy.defined_aside intends.targetIsIdentifier

theorem target_free (tidy : store.Tidy disk) :
    disk.node? (disk.destination promotion.target) = none := by
  have free := intends.free
  rw [intends.target] at free ⊢
  exact tidy.defined_free intends.targetIsIdentifier free

end Intends

/-! ## The journal is written -/

theorem Reshapes.ofWritten {path : Path} {text : String} {between : Disk}
    (parent : path.parent = store.registryPath.parent)
    (furnished : Disk.Furnished (disk.OnWay path.parent) disk between)
    (written : Work.Written path text between later) :
    store.Reshapes (· = disk.destination path) disk later := by
  have onWays (location : Location) (onWay : disk.OnWay path.parent location) :
      store.OnWays disk location := .inr (parent ▸ onWay)
  refine (Disk.Reshapes.ofFurnished furnished onWays).trans
    (.ofAlters written.alters written.noDirectory nofun ?_)
  exact Disk.destination_of_current furnished.current path

/-- The journal is written. -/
structure Journalled (store : Store) (journal : Path) (disk later : Disk) : Prop where
  reshapes : store.Reshapes (· = disk.destination journal) disk later
  reaches : later.Reaches journal
  written : ∃ content, later.node? (disk.destination journal) = some (.file content)

theorem Journalled.ofWritten {text : String} (journalPath : store.journalPath = .ok journal)
    (furnished : Disk.Furnished (disk.OnWay store.registryPath.parent) disk between)
    (written : Work.Written journal text between later) : store.Journalled journal disk later := by
  rw [← journal_parent journalPath] at furnished
  refine ⟨.ofWritten (journal_parent journalPath) furnished written, written.reaches,
    .text text, ?_⟩
  rw [← Disk.destination_of_current furnished.current]
  exact written.alters.here

/-- Beside its journal a definition is where it was. -/
theorem Journalled.still (journalled : store.Journalled journal disk later)
    (journalPath : store.journalPath = .ok journal) (intends : store.Intends name disk promotion)
    (file : disk.node? (disk.destination promotion.source) = some (.file content)) :
    later.node? (later.destination promotion.source) = some (.file content) := by
  rw [Disk.destination_of_current journalled.reshapes.leaves.keeps.current]
  exact (journalled.reshapes.leaves.file _ content (intends.source_ne_journal journalPath)).mpr
    file

theorem Journalled.isThere (journalled : store.Journalled journal disk later)
    (journalPath : store.journalPath = .ok journal)
    (intends : store.Intends name disk promotion) :
    later.pathExists promotion.source = .ok true := by
  obtain ⟨reaches, content, file⟩ := Disk.isFile_eq_true_iff.mp intends.isFile
  exact Disk.pathExists_eq_true_iff.mpr ⟨journalled.reshapes.leaves.keeps.reaches reaches,
    Option.isSome_of_eq_some (journalled.still journalPath intends file)⟩

/-! ## The definition is moved -/

/-- The definition is moved, and the journal is still there. -/
structure Underway (store : Store) (journal : Path) (promotion : Promotion) (content : Content)
    (disk later : Disk) : Prop where
  reshapes : store.Reshapes (fun location => location = disk.destination journal ∨
    location = disk.destination promotion.source ∨
      location = disk.destination promotion.target) disk later
  reachesJournal : later.Reaches journal
  written : ∃ text, later.node? (disk.destination journal) = some (.file text)
  reaches : later.Reaches promotion.target
  gone : later.node? (disk.destination promotion.source) = none
  arrived : later.node? (disk.destination promotion.target) = some (.file content)

theorem Journalled.moved {paved : Disk} (journalled : store.Journalled journal disk between)
    (journalPath : store.journalPath = .ok journal) (intends : store.Intends name disk promotion)
    (separate : store.Separate name promotion.entry.agentName disk)
    (furnished : Disk.Furnished (between.OnWay promotion.target.parent) between paved)
    (moved : Work.Moved promotion.source promotion.target content paved later) :
    store.Underway journal promotion content disk later := by
  have current := journalled.reshapes.leaves.keeps.current
  have node (location : Location) : later.node? location =
      if location = disk.destination promotion.target then some (.file content)
      else if location = disk.destination promotion.source then none
      else paved.node? location := by
    rw [moved.node]
    simp only [Disk.destination_of_current (furnished.current.trans current)]
  have paves : store.Reshapes (· = disk.destination journal) disk paved := by
    refine journalled.reshapes.trans (.ofFurnished furnished fun location onWay => .inl ?_)
    rwa [intends.parent_target, Disk.onWay_of_current current] at onWay
  have route : store.Reshapes (fun location => location = disk.destination journal ∨
      location = disk.destination promotion.source ∨
        location = disk.destination promotion.target) disk later := by
    refine (paves.mono fun _ => .inl).trans ⟨⟨moved.keeps, ?_⟩, ?_⟩
    · intro location content untouched
      obtain ⟨_, notSource, notTarget⟩ := by simpa only [not_or] using untouched
      rw [node, if_neg notTarget, if_neg notSource]
    · intro location directory
      rw [node] at directory
      split at directory
      · cases directory
      · split at directory
        · cases directory
        · exact .inl directory
  obtain ⟨text, written⟩ := journalled.written
  refine ⟨route, moved.keeps.reaches (furnished.keeps.reaches journalled.reaches), ⟨text, ?_⟩,
    moved.reaches, ?_, (node _).trans (if_pos rfl)⟩
  · rw [node, if_neg (Ne.symm (intends.target_ne_journal journalPath)),
      if_neg (Ne.symm (intends.source_ne_journal journalPath))]
    exact furnished.node?_some written
  · rw [node, if_neg (intends.source_ne_target separate), if_pos rfl]

/-- While a promotion is under way, the registry file is left alone. -/
theorem Underway.registry_untouched (journalPath : store.journalPath = .ok journal)
    (intends : store.Intends name disk promotion)
    (separate : store.Separate name promotion.entry.agentName disk) :
    ¬(disk.destination store.registryPath = disk.destination journal ∨
      disk.destination store.registryPath = disk.destination promotion.source ∨
        disk.destination store.registryPath = disk.destination promotion.target) := by
  rintro (journal | source | target)
  · exact journal_ne_registry journalPath disk journal.symm
  · exact intends.source_ne_registry separate source.symm
  · exact intends.target_ne_registry separate target.symm

/-! ## The table is saved -/

/-- The table is saved, and the journal is still there. -/
structure Enrolled (store : Store) (journal : Path) (promotion : Promotion) (content : Content)
    (table : Registry) (disk later : Disk) : Prop where
  reshapes : store.Reshapes (fun location => location = disk.destination journal ∨
    location = disk.destination store.registryPath ∨
      location = disk.destination promotion.source ∨
        location = disk.destination promotion.target) disk later
  keeps : store.Keeps (table.insert promotion.entry.agentName promotion.entry) later
  reachesJournal : later.Reaches journal
  written : ∃ text, later.node? (disk.destination journal) = some (.file text)
  reaches : later.Reaches promotion.target
  gone : later.node? (disk.destination promotion.source) = none
  arrived : later.node? (disk.destination promotion.target) = some (.file content)

theorem Underway.saved {last : Disk} {text : String}
    (underway : store.Underway journal promotion content disk later)
    (journalPath : store.journalPath = .ok journal) (intends : store.Intends name disk promotion)
    (separate : store.Separate name promotion.entry.agentName disk)
    (furnished : Disk.Furnished (later.OnWay store.registryPath.parent) later between)
    (written : Work.Written store.registryPath text between last)
    (keeps : store.Keeps (table.insert promotion.entry.agentName promotion.entry) last) :
    store.Enrolled journal promotion content table disk last := by
  have current := underway.reshapes.leaves.keeps.current
  have saves := Reshapes.ofWritten rfl furnished written
  rw [Store.Reshapes, onWays_of_current current, Disk.destination_of_current current] at saves
  -- The journal stands beside the registry, so no directory is new.
  have paved := furnished.node?_eq (registry_paved journalPath underway.reachesJournal)
  have elsewhere {location : Location} (differs : location ≠ disk.destination store.registryPath) :
      last.node? location = later.node? location := by
    rw [← paved]
    refine written.alters.elsewhere ?_
    rwa [Disk.destination_of_current (furnished.current.trans current)]
  obtain ⟨text, writtenJournal⟩ := underway.written
  refine ⟨?_, keeps, saves.leaves.keeps.reaches underway.reachesJournal, ⟨text, ?_⟩,
    saves.leaves.keeps.reaches underway.reaches, ?_, ?_⟩
  · refine (underway.reshapes.mono ?_).trans (saves.mono fun _ registry => .inr (.inl registry))
    rintro _ (journal | source | target)
    · exact .inl journal
    · exact .inr (.inr (.inl source))
    · exact .inr (.inr (.inr target))
  · rw [elsewhere (journal_ne_registry journalPath disk), writtenJournal]
  · rw [elsewhere (intends.source_ne_registry separate), underway.gone]
  · rw [elsewhere (intends.target_ne_registry separate), underway.arrived]

/-! ## The journal is removed -/

/-- A promotion was carried out. -/
structure Committed (store : Store) (journal : Path) (promotion : Promotion) (content : Content)
    (table : Registry) (disk later : Disk) : Prop where
  reshapes : store.Reshapes (fun location => location = disk.destination journal ∨
    location = disk.destination store.registryPath ∨
      location = disk.destination promotion.source ∨
        location = disk.destination promotion.target) disk later
  keeps : store.Keeps (table.insert promotion.entry.agentName promotion.entry) later
  reaches : later.Reaches promotion.target
  gone : later.node? (disk.destination promotion.source) = none
  arrived : later.node? (disk.destination promotion.target) = some (.file content)

/-- Once the table is saved, only the journal is left to be removed. -/
theorem Enrolled.committed (enrolled : store.Enrolled journal promotion content table disk between)
    (journalPath : store.journalPath = .ok journal) (intends : store.Intends name disk promotion)
    (alters : Disk.Alters (disk.destination journal) none between later) :
    store.Committed journal promotion content table disk later := by
  obtain ⟨text, written⟩ := enrolled.written
  have noDirectory := Disk.noDirectory_of_file written
  have current : between.current = disk.current := enrolled.reshapes.leaves.keeps.current
  have keepsLast := alters.keeps noDirectory
  have clears : store.Reshapes (· = disk.destination journal) between later :=
    .ofAlters alters noDirectory nofun rfl
  rw [Store.Reshapes, onWays_of_current current] at clears
  have keeps := enrolled.keeps
  refine ⟨enrolled.reshapes.trans (clears.mono fun _ => .inl), ⟨?_, ?_, ?_⟩, ?_, ?_, ?_⟩
  · exact keepsLast.reaches keeps.reaches
  · have file := keeps.file
    rw [Disk.destination_of_current current] at file
    rw [Disk.destination_of_current (alters.current.trans current),
      alters.elsewhere (Ne.symm (journal_ne_registry journalPath disk)), file]
  · have same : later.node? (between.destination store.registryPath) =
        between.node? (between.destination store.registryPath) := by
      rw [Disk.destination_of_current current]
      exact alters.elsewhere (Ne.symm (journal_ne_registry journalPath disk))
    rw [load_of_reaches (keepsLast.reaches keeps.reaches),
      Disk.destination_of_current alters.current, same, ← load_of_reaches keeps.reaches,
      keeps.loaded]
  · exact keepsLast.reaches enrolled.reaches
  · rw [alters.elsewhere (intends.source_ne_journal journalPath), enrolled.gone]
  · rw [alters.elsewhere (intends.target_ne_journal journalPath), enrolled.arrived]

end Store

end AgentFlow
