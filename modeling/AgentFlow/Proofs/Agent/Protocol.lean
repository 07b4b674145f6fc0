import AgentFlow.Proofs.Agent.Saving
import Mathlib.Logic.Relation

/-!
# The protocol of the journal

A promotion goes through three phases: there is no journal, the journal is there and the
definition waits to be moved, or the definition has arrived and the journal is still
there.  The phase can be read off the disk.  Whatever calls do, and wherever they stop,
they take the disk from phase to phase by a few steps, and each step spares every place
but those it is about.
-/

namespace AgentFlow

open AgentFlow.Text

/-- A store on a disk on which the registry is none of the definitions, and can be loaded
if it is there. -/
structure Layout where
  store : Store
  journal : Path
  start : Disk
  journalPath : store.journalPath = .ok journal
  agentsDir : store.agentsDir.IsSpelled
  temporaryDir : store.temporaryDir.IsSpelled
  temporaryApart : ∀ name, isIdentifier name = true →
    start.destination (store.temporaryPath name) ≠ start.destination store.registryPath
  definedApart : ∀ name, isIdentifier name = true →
    start.destination (store.definedPath name) ≠ start.destination store.registryPath
  registry : ∀ content, start.node? (start.destination store.registryPath) = some (.file content) →
    start.Reaches store.registryPath

namespace Layout

variable (l : Layout)

/-! ## Places -/

def place (path : Path) : Location := l.start.destination path

def journalPlace : Location := l.place l.journal

def registryPlace : Location := l.place l.store.registryPath

/-- A place at which no temporary file is written. -/
def Lasting (location : Location) : Prop :=
  ∀ n, location ≠ l.place (Work.temporaryBeside l.journal n) ∧
    location ≠ l.place (Work.temporaryBeside l.store.registryPath n)

theorem lasting_journalPlace : l.Lasting l.journalPlace := fun n =>
  ⟨Store.journal_ne_temporary l.journalPath l.start _ n,
    Store.journal_ne_temporary l.journalPath l.start _ n⟩

theorem lasting_registryPlace : l.Lasting l.registryPlace := fun n =>
  ⟨Store.registry_ne_journal_temporary l.journalPath l.start n,
    Store.registry_ne_temporary l.journalPath l.start n⟩

theorem lasting_definition {directory : Path} {name : String}
    (identifier : isIdentifier name = true) :
    l.Lasting (l.place (definitionPath directory name)) := fun n =>
  ⟨Disk.definition_ne_temporary identifier _ n, Disk.definition_ne_temporary identifier _ n⟩

theorem journalPlace_ne_registryPlace : l.journalPlace ≠ l.registryPlace :=
  Store.journal_ne_registry l.journalPath l.start

theorem registryPlace_ne_journalPlace : l.registryPlace ≠ l.journalPlace :=
  Ne.symm l.journalPlace_ne_registryPlace

theorem journalPlace_ne_definition {directory : Path} {name : String}
    (identifier : isIdentifier name = true) :
    l.journalPlace ≠ l.place (definitionPath directory name) :=
  Store.journal_ne_definition l.journalPath l.start identifier

/-! ## Sparing places -/

/-- Nothing is different at the places that are not touched, but for directories that are
new.  Temporary files do not count. -/
structure Spares (touched : Location → Prop) (disk later : Disk) : Prop where
  keeps : disk.Keeps later
  node : ∀ location, l.Lasting location → ¬touched location →
    later.node? location = disk.node? location ∨
      disk.node? location = none ∧ later.node? location = some .directory

def Nothing (_ : Location) : Prop := False

namespace Spares

variable {l} {touched : Location → Prop} {disk later last : Disk} {location : Location}

theorem refl (disk : Disk) : l.Spares touched disk disk :=
  ⟨Disk.Keeps.refl disk, fun _ _ _ => .inl rfl⟩

theorem trans (first : l.Spares touched disk later) (second : l.Spares touched later last) :
    l.Spares touched disk last where
  keeps := first.keeps.trans second.keeps
  node := by
    intro location lasting untouched
    rcases second.node location lasting untouched with same | ⟨free, made⟩
    · rw [same]
      exact first.node location lasting untouched
    · rcases first.node location lasting untouched with before | ⟨_, taken⟩
      · exact .inr ⟨before ▸ free, made⟩
      · rw [taken] at free
        cases free

theorem ofFurnished {ways : Location → Prop} (furnished : Disk.Furnished ways disk later) :
    l.Spares touched disk later where
  keeps := furnished.keeps
  node := by
    intro location _ _
    rcases furnished.node location with same | ⟨free, made, _⟩
    · exact .inl same
    · exact .inr ⟨free, made⟩

theorem ofLittered {path : Path} (current : disk.current = l.start.current)
    (beside : path = l.journal ∨ path = l.store.registryPath)
    (littered : Work.Littered path disk later) : l.Spares touched disk later where
  keeps := littered.keeps
  node := by
    intro location lasting _
    left
    rcases littered with rfl | ⟨n, content, _, alters⟩
    · rfl
    · apply alters.elsewhere
      rw [Disk.destination_of_current current]
      rcases beside with rfl | rfl
      · exact (lasting n).1
      · exact (lasting n).2

theorem ofAlters {node : Option Node} (alters : Disk.Alters location node disk later)
    (noDirectory : disk.node? location ≠ some .directory) :
    l.Spares (· = location) disk later where
  keeps := alters.keeps noDirectory
  node := fun _ _ elsewhere => .inl (alters.elsewhere elsewhere)

theorem node?_some {node : Node} (spares : l.Spares touched disk later)
    (lasting : l.Lasting location) (untouched : ¬touched location)
    (found : disk.node? location = some node) : later.node? location = some node := by
  rcases spares.node location lasting untouched with same | ⟨free, _⟩
  · rw [same, found]
  · rw [found] at free
    cases free

theorem file {content : Content} (spares : l.Spares touched disk later)
    (lasting : l.Lasting location) (untouched : ¬touched location)
    (found : later.node? location = some (.file content)) :
    disk.node? location = some (.file content) := by
  rcases spares.node location lasting untouched with same | ⟨_, made⟩
  · rw [← same, found]
  · rw [made] at found
    cases found

end Spares

/-! ## Phases -/

/-- How far the promotion of the journal is. -/
inductive Phase where
  | idle
  | waiting (promotion : Promotion)
  | arrived (promotion : Promotion)

/-- A promotion of the store. -/
structure Belongs (promotion : Promotion) : Prop where
  told : promotion.IsTold
  source : ∃ name, isIdentifier name = true ∧ promotion.source = l.store.temporaryPath name
  identifier : isIdentifier promotion.entry.agentName = true
  target : promotion.target = l.store.definedPath promotion.entry.agentName

/-- The places between which a definition is moved. -/
def Route (promotion : Promotion) (location : Location) : Prop :=
  location = l.place promotion.source ∨ location = l.place promotion.target

theorem Belongs.journal_untouched {l : Layout} {promotion : Promotion}
    (belongs : l.Belongs promotion) : ¬l.Route promotion l.journalPlace := by
  obtain ⟨name, identifier, source⟩ := belongs.source
  rw [Route, source, belongs.target, not_or]
  exact ⟨l.journalPlace_ne_definition identifier, l.journalPlace_ne_definition belongs.identifier⟩

theorem Belongs.registry_untouched {l : Layout} {promotion : Promotion}
    (belongs : l.Belongs promotion) : ¬l.Route promotion l.registryPlace := by
  obtain ⟨name, identifier, source⟩ := belongs.source
  rw [Route, source, belongs.target, not_or]
  exact ⟨Ne.symm (l.temporaryApart name identifier),
    Ne.symm (l.definedApart _ belongs.identifier)⟩

theorem belongs_of_intends {l : Layout} {name : String} {disk : Disk} {promotion : Promotion}
    (intends : l.store.Intends name disk promotion) : l.Belongs promotion where
  told := Promotion.isTold_of_intends intends l.agentsDir l.temporaryDir
  source := ⟨name, intends.nameIsIdentifier, intends.source⟩
  identifier := intends.targetIsIdentifier
  target := intends.target

/-- The journal of a promotion is there. -/
structure Journals (promotion : Promotion) (disk : Disk) : Prop where
  belongs : l.Belongs promotion
  reaches : disk.Reaches l.journal
  written : disk.node? l.journalPlace = some (.file (.text promotion.toDocument.fileText))
  source : disk.Reaches promotion.source

/-- A file stands at the place of a path. -/
def Holds (disk : Disk) (path : Path) : Prop :=
  ∃ content, disk.node? (l.place path) = some (.file content)

instance (disk : Disk) (path : Path) : Decidable (l.Holds disk path) :=
  match found : disk.node? (l.place path) with
  | some (.file content) => .isTrue ⟨content, found⟩
  | some .directory => .isFalse (by
      rintro ⟨content, file⟩
      rw [found] at file
      cases file)
  | none => .isFalse (by
      rintro ⟨content, file⟩
      rw [found] at file
      cases file)

/-- What stands on the disk in a phase. -/
def At : Phase → Disk → Prop
  | .idle, disk => ¬l.Holds disk l.journal
  | .waiting promotion, disk => l.Journals promotion disk ∧ l.Holds disk promotion.source
  | .arrived promotion, disk =>
    l.Journals promotion disk ∧ disk.Reaches promotion.target ∧ l.Holds disk promotion.target ∧
      (l.Holds disk promotion.source → l.place promotion.source = l.place promotion.target)

/-- A disk in a phase.  The registry can be loaded from its place. -/
structure Stands (phase : Phase) (disk : Disk) : Prop where
  current : disk.current = l.start.current
  registry : l.Holds disk l.store.registryPath → disk.Reaches l.store.registryPath
  phase : l.At phase disk

/-- Places at which no phase is told. -/
structure Aside (touched : Location → Prop) : Prop where
  journal : ¬touched l.journalPlace
  temporary : ∀ name, isIdentifier name = true → ¬touched (l.place (l.store.temporaryPath name))
  defined : ∀ name, isIdentifier name = true → ¬touched (l.place (l.store.definedPath name))

section Aside

variable {l} {touched : Location → Prop} {disk later : Disk} {phase : Phase} {promotion : Promotion}

theorem aside_nothing : l.Aside Nothing := ⟨nofun, fun _ _ => nofun, fun _ _ => nofun⟩

theorem aside_registryPlace : l.Aside (· = l.registryPlace) :=
  ⟨l.journalPlace_ne_registryPlace, l.temporaryApart, l.definedApart⟩

theorem Stands.destination (stands : l.Stands phase disk) (path : Path) :
    disk.destination path = l.place path :=
  Disk.destination_of_current stands.current path

theorem Spares.holds {path : Path} (spares : l.Spares touched disk later)
    (lasting : l.Lasting (l.place path)) (untouched : ¬touched (l.place path)) :
    l.Holds later path ↔ l.Holds disk path := by
  constructor
  · rintro ⟨content, found⟩
    exact ⟨content, spares.file lasting untouched found⟩
  · rintro ⟨content, found⟩
    exact ⟨content, spares.node?_some lasting untouched found⟩

theorem Stands.registry_spared (stands : l.Stands phase disk) (spares : l.Spares touched disk later)
    (untouched : ¬touched l.registryPlace) :
    l.Holds later l.store.registryPath → later.Reaches l.store.registryPath := by
  intro holds
  apply spares.keeps.reaches
  apply stands.registry
  exact (spares.holds l.lasting_registryPlace untouched).mp holds

theorem Journals.spared (journals : l.Journals promotion disk) (spares : l.Spares touched disk later)
    (untouched : ¬touched l.journalPlace) : l.Journals promotion later where
  belongs := journals.belongs
  reaches := spares.keeps.reaches journals.reaches
  written := spares.node?_some l.lasting_journalPlace untouched journals.written
  source := spares.keeps.reaches journals.source

theorem Journals.atJournal (journals : l.Journals promotion disk)
    (current : disk.current = l.start.current) :
    disk.node? (disk.destination l.journal) =
      some (.file (.text promotion.toDocument.fileText)) := by
  rw [Disk.destination_of_current current]
  exact journals.written

/-- The journal tells which promotion it is of. -/
theorem Journals.read (journals : l.Journals promotion disk)
    (current : disk.current = l.start.current) :
    Promotion.read disk l.journal = .ok promotion :=
  Promotion.read_written journals.belongs.told journals.reaches (journals.atJournal current)

theorem At.spared (standing : l.At phase disk) (spares : l.Spares touched disk later)
    (aside : l.Aside touched) : l.At phase later := by
  cases phase with
  | idle => rwa [At, spares.holds l.lasting_journalPlace aside.journal]
  | waiting promotion =>
      obtain ⟨journals, atSource⟩ := standing
      have ⟨name, identifier, source⟩ := journals.belongs.source
      refine ⟨journals.spared spares aside.journal, ?_⟩
      rw [source] at atSource ⊢
      exact (spares.holds (l.lasting_definition identifier)
        (aside.temporary name identifier)).mpr atSource
  | arrived promotion =>
      obtain ⟨journals, reaches, atTarget, atSource⟩ := standing
      have identifier := journals.belongs.identifier
      have ⟨name, sourceIdentifier, source⟩ := journals.belongs.source
      refine ⟨journals.spared spares aside.journal, spares.keeps.reaches reaches, ?_, ?_⟩
      · rw [journals.belongs.target] at atTarget ⊢
        exact (spares.holds (l.lasting_definition identifier)
          (aside.defined _ identifier)).mpr atTarget
      · intro holds
        apply atSource
        rw [source] at holds ⊢
        exact (spares.holds (l.lasting_definition sourceIdentifier)
          (aside.temporary name sourceIdentifier)).mp holds

end Aside

/-! ## Files that are written and moved -/

section Places

variable {l} {disk later : Disk} {content : Content} {promotion : Promotion}

theorem alters_written {path : Path} {text : String} (current : disk.current = l.start.current)
    (written : Work.Written path text disk later) :
    Disk.Alters (l.place path) (some (.file (.text text))) disk later ∧
      disk.node? (l.place path) ≠ some .directory := by
  have alters := written.alters
  have noDirectory := written.noDirectory
  rw [Disk.destination_of_current current] at alters noDirectory
  exact ⟨alters, noDirectory⟩

theorem node?_moved (current : disk.current = l.start.current)
    (moved : Work.Moved promotion.source promotion.target content disk later)
    (location : Location) :
    later.node? location =
      if location = l.place promotion.target then some (.file content)
      else if location = l.place promotion.source then none
      else disk.node? location := by
  rw [moved.node, Disk.destination_of_current current, Disk.destination_of_current current]
  rfl

end Places

/-! ## Situations and steps -/

structure Situation where
  phase : Phase
  disk : Disk
  stands : l.Stands phase disk

/-- An entry is in the table that can be loaded. -/
def Lists (disk : Disk) (name : String) (entry : Entry) : Prop :=
  ∃ table, l.store.load disk = .ok table ∧ table.get? name = some entry

theorem lists_iff {disk : Disk} {name : String} {entry : Entry} : l.Lists disk name entry ↔
    (l.store.load disk).toOption.bind (·.get? name) = some entry := by
  rw [Option.bind_eq_some_iff]
  simp only [toOption_eq_some_iff]
  rfl

instance (disk : Disk) (name : String) (entry : Entry) : Decidable (l.Lists disk name entry) :=
  decidable_of_iff _ l.lists_iff.symm

structure Saves (table : Registry) (disk later : Disk) : Prop where
  load : l.store.load later = .ok table
  spares : l.Spares (· = l.registryPlace) disk later

/-- What calls do to a disk step by step.  A promotion begins in certain situations only. -/
inductive Step (may : l.Situation → Prop) : l.Situation → l.Situation → Prop
  | aside {x y : l.Situation} (phase : y.phase = x.phase)
      (spares : l.Spares Nothing x.disk y.disk) : Step may x y
  | begins {x y : l.Situation} {promotion : Promotion} {table : Registry} (allowed : may x)
      (phase : y.phase = .waiting promotion) (loaded : l.store.load x.disk = .ok table)
      (absent : table.contains promotion.entry.agentName = false)
      (spares : l.Spares (· = l.journalPlace) x.disk y.disk) : Step may x y
  | moves {x y : l.Situation} {promotion : Promotion} (before : x.phase = .waiting promotion)
      (phase : y.phase = .arrived promotion)
      (spares : l.Spares (l.Route promotion) x.disk y.disk) : Step may x y
  | enrolls {x y : l.Situation} {promotion : Promotion} {table : Registry}
      (before : x.phase = .arrived promotion) (phase : y.phase = .arrived promotion)
      (loaded : l.store.load x.disk = .ok table)
      (saves : l.Saves (table.insert promotion.entry.agentName promotion.entry) x.disk y.disk) :
      Step may x y
  | ends {x y : l.Situation} {promotion : Promotion} (before : x.phase = .arrived promotion)
      (phase : y.phase = .idle)
      (listed : l.Lists x.disk promotion.entry.agentName promotion.entry)
      (spares : l.Spares (· = l.journalPlace) x.disk y.disk) : Step may x y

abbrev Steps (may : l.Situation → Prop) : l.Situation → l.Situation → Prop :=
  Relation.ReflTransGen (l.Step may)

/-- A registered agent is used once more. -/
structure Counts (name : String) (x y : l.Situation) : Prop where
  phase : y.phase = x.phase
  saves : ∃ table entry, l.store.load x.disk = .ok table ∧ table.get? name = some entry ∧
    l.Saves (table.insert name { entry with usageCount := entry.usageCount + 1 }) x.disk y.disk

section Lists

variable {l} {touched : Location → Prop} {x y : l.Situation} {name : String} {entry : Entry}

theorem lists_iff_file : l.Lists x.disk name entry ↔ ∃ content table,
    x.disk.node? l.registryPlace = some (.file content) ∧
      Registry.ofNode l.store.registryPath (some (.file content)) = .ok table ∧
      table.get? name = some entry := by
  constructor
  · rintro ⟨table, loaded, found⟩
    rcases Store.file_of_load loaded with rfl | ⟨reaches, content, file⟩
    · cases found
    · rw [Store.load_of_reaches reaches, file] at loaded
      rw [x.stands.destination] at file
      exact ⟨content, table, file, loaded, found⟩
  · rintro ⟨content, table, file, read, found⟩
    refine ⟨table, ?_, found⟩
    rw [Store.load_of_reaches (x.stands.registry ⟨content, file⟩), x.stands.destination]
    exact (congrArg (Registry.ofNode l.store.registryPath) file).trans read

/-- The table is the same as long as its file is spared. -/
theorem Spares.lists (spares : l.Spares touched x.disk y.disk)
    (untouched : ¬touched l.registryPlace) :
    l.Lists y.disk name entry ↔ l.Lists x.disk name entry := by
  rw [lists_iff_file, lists_iff_file]
  constructor
  · rintro ⟨content, table, file, rest⟩
    exact ⟨content, table, spares.file l.lasting_registryPlace untouched file, rest⟩
  · rintro ⟨content, table, file, rest⟩
    exact ⟨content, table, spares.node?_some l.lasting_registryPlace untouched file, rest⟩

theorem Saves.lists_iff {table : Registry} {disk later : Disk} {changed : String} {new : Entry}
    (saves : l.Saves (table.insert changed new) disk later)
    (loaded : l.store.load disk = .ok table) :
    l.Lists later name entry ↔
      if name = changed then entry = new else l.Lists disk name entry := by
  simp only [Lists, saves.load, loaded, Except.ok.injEq, exists_eq_left',
    Registry.get?_insert]
  split
  · simp [eq_comm]
  · rfl

end Lists

end Layout

end AgentFlow
