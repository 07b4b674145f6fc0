import AgentFlow.Proofs.Agent.Places
import AgentFlow.Proofs.Agent.Promotion

/-!
# The stages of a promotion

After its journal is written a promotion moves the definition, writes the table and
removes the journal.  At every stage the disk is known at all locations, up to what an
interruption may leave behind where nothing stood before: directories on the way, and
temporary files.  Work that starts at some stage ends at that stage or a later one,
whatever mishaps it meets.
-/

namespace AgentFlow

open AgentFlow.Text

/-- What stands where. -/
abbrev View := Location → Option Node

/-- A view with something else at one location. -/
def View.set (view : View) (location : Location) (node : Option Node) : View :=
  fun other => if other = location then node else view other

@[simp] theorem View.set_here (view : View) (location : Location) (node : Option Node) :
    view.set location node location = node := if_pos rfl

theorem View.set_elsewhere {view : View} {location other : Location} {node : Option Node}
    (differs : other ≠ location) : view.set location node other = view other := if_neg differs

/-- What an interrupted promotion may leave at a location where nothing stood: a directory
on the way to the registry or to the definition, or a temporary file. -/
def Store.Leftover (store : Store) (target journal : Path) (before : Disk) (location : Location) :
    Option Node → Prop
  | none => True
  | some .directory =>
    before.OnWay store.registryPath.parent location ∨ before.OnWay target.parent location
  | some (.file _) => ∃ n,
    location = before.destination (Work.temporaryBeside journal n) ∨
      location = before.destination (Work.temporaryBeside store.registryPath n)

/-- A promotion that is made on a disk without a journal.  The registry is not the
definition that is moved. -/
structure Undertaking where
  store : Store
  name : String
  before : Disk
  promotion : Promotion
  journal : Path
  content : Content
  intends : store.Intends name before promotion
  told : promotion.IsTold
  journalPath : store.journalPath = .ok journal
  reaches : before.Reaches promotion.source
  file : before.node? (before.destination promotion.source) = some (.file content)
  noJournal : before.node? (before.destination journal) = none
  apart : before.destination promotion.source ≠ before.destination store.registryPath

namespace Undertaking

variable (u : Undertaking)

/-! ## Places -/

/-- Where the journal is written. -/
def journalPlace : Location := u.before.destination u.journal

/-- Where the definition comes from. -/
def sourcePlace : Location := u.before.destination u.promotion.source

/-- Where the definition goes. -/
def targetPlace : Location := u.before.destination u.promotion.target

/-- Where the registry is. -/
def registryPlace : Location := u.before.destination u.store.registryPath

theorem journalPlace_ne_sourcePlace : u.journalPlace ≠ u.sourcePlace := by
  unfold sourcePlace
  rw [u.intends.source]
  exact Store.journal_ne_definition u.journalPath u.before u.intends.nameIsIdentifier

theorem journalPlace_ne_targetPlace : u.journalPlace ≠ u.targetPlace := by
  unfold targetPlace
  rw [u.intends.target]
  exact Store.journal_ne_definition u.journalPath u.before u.intends.targetIsIdentifier

theorem journalPlace_ne_registryPlace : u.journalPlace ≠ u.registryPlace :=
  Store.journal_ne_registry u.journalPath u.before

theorem sourcePlace_ne_registryPlace : u.sourcePlace ≠ u.registryPlace := u.apart

theorem sourcePlace_ne_temporary (path : Path) (n : Nat) :
    u.sourcePlace ≠ u.before.destination (Work.temporaryBeside path n) := by
  unfold sourcePlace
  rw [u.intends.source]
  exact Disk.definition_ne_temporary u.intends.nameIsIdentifier path n

theorem journalPlace_ne_temporary (path : Path) (n : Nat) :
    u.journalPlace ≠ u.before.destination (Work.temporaryBeside path n) :=
  Store.journal_ne_temporary u.journalPath u.before path n

theorem registryPlace_ne_temporary (n : Nat) :
    u.registryPlace ≠ u.before.destination (Work.temporaryBeside u.store.registryPath n) :=
  Store.registry_ne_temporary u.journalPath u.before n

theorem registryPlace_ne_journal_temporary (n : Nat) :
    u.registryPlace ≠ u.before.destination (Work.temporaryBeside u.journal n) :=
  Store.registry_ne_journal_temporary u.journalPath u.before n

/-! ## Views of the stages -/

/-- The journal is written. -/
def journalled : View :=
  View.set u.before.node? u.journalPlace (some (.file (.text u.promotion.toDocument.fileText)))

/-- The definition is moved, too. -/
def moved : View :=
  (u.journalled.set u.sourcePlace none).set u.targetPlace (some (.file u.content))

/-- The table that is written. -/
def registered (table : Registry) : Registry :=
  table.insert u.promotion.entry.agentName u.promotion.entry

/-- The table is written, too. -/
def tabled (table : Registry) : View :=
  u.moved.set u.registryPlace (some (.file (.text (u.registered table).fileText)))

/-- The journal is removed, and everything is done. -/
def finished (table : Registry) : View := (u.tabled table).set u.journalPlace none

/-- The table that is loaded after the definition is moved; with the new entry it can be
written. -/
structure Loads (table : Registry) : Prop where
  loaded : Registry.ofNode u.store.registryPath (u.moved u.registryPlace) = .ok table
  short : (u.registered table).toDocument.longInteger? = none
  movable : Disk.isMovable u.store.registryPath = true
  temporary : ∃ n, Disk.Fits (Work.temporaryBeside u.store.registryPath n)

/-- The views of the stages at which the definition is moved and the journal still there. -/
inductive Replayable : View → Prop
  | afterMove : Replayable u.moved
  | afterTable {table : Registry} (loads : u.Loads table) : Replayable (u.tabled table)

theorem before_sourcePlace : u.before.node? u.sourcePlace = some (.file u.content) := u.file

theorem journalled_journalPlace :
    u.journalled u.journalPlace = some (.file (.text u.promotion.toDocument.fileText)) :=
  View.set_here _ _ _

theorem journalled_sourcePlace : u.journalled u.sourcePlace = some (.file u.content) := by
  rw [journalled, View.set_elsewhere (Ne.symm u.journalPlace_ne_sourcePlace)]
  exact u.before_sourcePlace

theorem moved_journalPlace :
    u.moved u.journalPlace = some (.file (.text u.promotion.toDocument.fileText)) := by
  rw [moved, View.set_elsewhere u.journalPlace_ne_targetPlace,
    View.set_elsewhere u.journalPlace_ne_sourcePlace, journalled_journalPlace]

theorem moved_sourcePlace (differs : u.sourcePlace ≠ u.targetPlace) :
    u.moved u.sourcePlace = none := by
  rw [moved, View.set_elsewhere differs, View.set_here]

/-- Where a stage has nothing, nothing stood before, but for the definition. -/
theorem before_of_journalled {location : Location} (free : u.journalled location = none) :
    u.before.node? location = none := by
  by_cases here : location = u.journalPlace
  · rw [here]
    exact u.noJournal
  · rwa [journalled, View.set_elsewhere here] at free

theorem before_of_moved {location : Location} (elsewhere : location ≠ u.sourcePlace)
    (free : u.moved location = none) : u.before.node? location = none := by
  by_cases target : location = u.targetPlace
  · rw [target, moved, View.set_here] at free
    cases free
  · rw [moved, View.set_elsewhere target, View.set_elsewhere elsewhere] at free
    exact u.before_of_journalled free

section Replayable

variable {u}

theorem Loads.unique {first second : Registry} (one : u.Loads first) (other : u.Loads second) :
    first = second := by
  have same := one.loaded.symm.trans other.loaded
  exact Except.ok.inj same

/-- The table that is written is loaded again. -/
theorem Loads.reloaded {table : Registry} (loads : u.Loads table) :
    Registry.ofNode u.store.registryPath (some (.file (.text (u.registered table).fileText))) =
      .ok (u.registered table) := by
  have wellFormed : (u.registered table).WellFormed :=
    (Registry.wellFormed_of_ofNode loads.loaded).insert u.told.entry
  exact Registry.ofNode_written wellFormed loads.short u.store.registryPath

theorem Replayable.journalPlace {view : View} (replayable : u.Replayable view) :
    view u.journalPlace = some (.file (.text u.promotion.toDocument.fileText)) := by
  cases replayable with
  | afterMove => exact u.moved_journalPlace
  | afterTable loads =>
      rw [tabled, View.set_elsewhere u.journalPlace_ne_registryPlace, moved_journalPlace]

/-- Once it is moved, the definition is no longer where it came from. -/
theorem Replayable.sourcePlace {view : View} (replayable : u.Replayable view)
    (differs : u.sourcePlace ≠ u.targetPlace) : view u.sourcePlace = none := by
  cases replayable with
  | afterMove => exact u.moved_sourcePlace differs
  | afterTable loads => rw [tabled, View.set_elsewhere u.sourcePlace_ne_registryPlace, u.moved_sourcePlace differs]

theorem Replayable.targetPlace {view : View} (replayable : u.Replayable view) :
    ∃ content, view u.targetPlace = some (.file content) := by
  cases replayable with
  | afterMove => exact ⟨u.content, View.set_here _ _ _⟩
  | @afterTable table loads =>
      by_cases same : u.targetPlace = u.registryPlace
      · exact ⟨.text (u.registered table).fileText, by rw [tabled, same, View.set_here]⟩
      · refine ⟨u.content, ?_⟩
        rw [tabled, View.set_elsewhere same, moved, View.set_here]

theorem Replayable.before {view : View} (replayable : u.Replayable view) {location : Location}
    (elsewhere : location ≠ u.sourcePlace) (free : view location = none) :
    u.before.node? location = none := by
  cases replayable with
  | afterMove => exact u.before_of_moved elsewhere free
  | afterTable loads =>
      by_cases here : location = u.registryPlace
      · rw [here, tabled, View.set_here] at free
        cases free
      · rw [tabled, View.set_elsewhere here] at free
        exact u.before_of_moved elsewhere free

/-- Loading the table again and putting the entry into it again gives the same table. -/
theorem Replayable.loads {view : View} (replayable : u.Replayable view) {table : Registry}
    (loaded : Registry.ofNode u.store.registryPath (view u.registryPlace) = .ok table)
    (short : (u.registered table).toDocument.longInteger? = none)
    (movable : Disk.isMovable u.store.registryPath = true)
    (temporary : ∃ n, Disk.Fits (Work.temporaryBeside u.store.registryPath n)) :
    ∃ first, u.Loads first ∧ u.registered table = u.registered first := by
  cases replayable with
  | afterMove => exact ⟨table, ⟨loaded, short, movable, temporary⟩, rfl⟩
  | @afterTable first loads =>
      rw [tabled, View.set_here, loads.reloaded] at loaded
      cases loaded
      exact ⟨first, loads, Registry.insert_insert first _ _⟩

theorem Replayable.set_registryPlace {view : View} (replayable : u.Replayable view) (table : Registry) :
    view.set u.registryPlace (some (.file (.text (u.registered table).fileText))) =
      u.tabled table := by
  cases replayable with
  | afterMove => rfl
  | afterTable loads =>
      funext location
      simp only [tabled, View.set]
      split <;> rfl

end Replayable

/-! ## Disks that a view tells -/

/-- A disk that is as a view tells, up to leftovers of an interruption. -/
structure Grown (view : View) (disk : Disk) : Prop where
  keeps : u.before.Keeps disk
  node : ∀ location, disk.node? location = view location ∨
    view location = none ∧ u.before.node? location = none ∧
      u.store.Leftover u.promotion.target u.journal u.before location (disk.node? location)

section Grown

variable {u} {view : View} {disk later : Disk}

theorem Grown.of_same (grown : u.Grown view disk) (keeps : disk.Keeps later)
    (same : ∀ location, later.node? location = disk.node? location) : u.Grown view later where
  keeps := grown.keeps.trans keeps
  node := fun location => by
    rw [same]
    exact grown.node location

theorem Grown.node?_of_some (grown : u.Grown view disk) {location : Location} {node : Node}
    (found : view location = some node) : disk.node? location = some node := by
  rcases grown.node location with same | ⟨free, _⟩
  · rw [same, found]
  · rw [found] at free
    cases free

theorem Grown.node?_of_none (grown : u.Grown view disk) {location : Location}
    (free : view location = none) (taken : u.before.node? location ≠ none) :
    disk.node? location = none := by
  rcases grown.node location with same | ⟨_, nothing, _⟩
  · rw [same, free]
  · exact absurd nothing taken

theorem Grown.node?_sourcePlace (grown : u.Grown view disk) (free : view u.sourcePlace = none) :
    disk.node? u.sourcePlace = none := by
  refine grown.node?_of_none free ?_
  rw [u.before_sourcePlace]
  exact Option.some_ne_none _

theorem Grown.view_of_none (grown : u.Grown view disk) {location : Location}
    (free : disk.node? location = none) : view location = none := by
  rcases grown.node location with same | ⟨nothing, _⟩
  · rw [← same, free]
  · exact nothing

theorem Grown.furnished (grown : u.Grown view disk) {ways : Location → Prop}
    (furnished : Disk.Furnished ways disk later)
    (onWay : ∀ location, ways location →
      u.before.OnWay u.store.registryPath.parent location ∨
        u.before.OnWay u.promotion.target.parent location)
    (before : ∀ location, view location = none → u.before.node? location = none) :
    u.Grown view later where
  keeps := grown.keeps.trans furnished.keeps
  node := fun location => by
    rcases furnished.node location with same | ⟨free, made, way⟩
    · rw [same]
      exact grown.node location
    · have nothing := grown.view_of_none free
      refine Or.inr ⟨nothing, before location nothing, ?_⟩
      rw [made]
      exact onWay location way

theorem Grown.littered (grown : u.Grown view disk) {path : Path}
    (littered : Work.Littered path disk later)
    (beside : path = u.journal ∨ path = u.store.registryPath)
    (before : ∀ location, location ≠ u.sourcePlace → view location = none →
      u.before.node? location = none) : u.Grown view later := by
  rcases littered with rfl | ⟨n, content, free, alters⟩
  · exact grown
  · have keeps := alters.keeps (Disk.noDirectory_of_none free)
    rw [Disk.destination_of_current grown.keeps.current] at free alters
    refine ⟨grown.keeps.trans keeps, fun location => ?_⟩
    by_cases here : location = u.before.destination (Work.temporaryBeside path n)
    · have nothing := grown.view_of_none free
      have notSource : location ≠ u.sourcePlace := by
        rw [here]
        exact Ne.symm (u.sourcePlace_ne_temporary path n)
      rw [here, alters.here]
      refine Or.inr ⟨nothing, before _ (here ▸ notSource) nothing, n, ?_⟩
      rcases beside with rfl | rfl
      · exact Or.inl rfl
      · exact Or.inr rfl
    · rw [alters.elsewhere here]
      exact grown.node location

theorem Grown.alters (grown : u.Grown view disk) {location : Location} {node : Option Node}
    (alters : Disk.Alters location node disk later) (keeps : disk.Keeps later) :
    u.Grown (view.set location node) later where
  keeps := grown.keeps.trans keeps
  node := fun other => by
    by_cases here : other = location
    · subst here
      exact Or.inl (by rw [alters.here, View.set_here])
    · rw [alters.elsewhere here, View.set_elsewhere here]
      exact grown.node other

theorem Grown.moved {source target : Path} {content : Content} (grown : u.Grown view disk)
    (moved : Work.Moved source target content disk later) :
    u.Grown ((view.set (u.before.destination source) none).set (u.before.destination target)
      (some (.file content))) later where
  keeps := grown.keeps.trans moved.keeps
  node := fun location => by
    have node := moved.node location
    rw [Disk.destination_of_current grown.keeps.current,
      Disk.destination_of_current grown.keeps.current] at node
    rw [node, View.set, View.set]
    split
    · exact Or.inl rfl
    · split
      · exact Or.inl rfl
      · exact grown.node location

end Grown

end Undertaking

end AgentFlow
