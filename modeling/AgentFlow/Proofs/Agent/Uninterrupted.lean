import AgentFlow.Proofs.Agent.Calls
import AgentFlow.Proofs.Agent.Ending

/-!
# Uninterrupted runs

As long as every operation comes to its end nothing is lost and nothing is doubled.  A
definition enters the defined agents by a promotion and stays as it is, an entry enters the
table by a promotion and differs later by its uses only, and a temporary agent leaves when it
is promoted or deleted.  What is said of one event holds after every run, as the disk rests
between any two events.
-/

namespace AgentFlow

open AgentFlow.Text

/-- What happens to a store: an operation gives an answer, an operation is refused before it
changes anything, or a temporary definition appears. -/
inductive Event where
  | answered (operation : Operation) (answer : Answer)
  | refused (operation : Operation)
  | appeared (name : String)

namespace Event

/-- A temporary agent is promoted to a name. -/
inductive Promotes : Event → String → String → Prop
  | promote (today : Date) (name : String) (newName : Option String) :
      Promotes (.answered (.promote today name newName) (.flag true)) name
        (Store.promotedName name newName)

/-- A temporary agent leaves. -/
inductive Takes : Event → String → Prop
  | promotes {event : Event} {name target : String} (promotes : event.Promotes name target) :
      Takes event name
  | deletes (name : String) : Takes (.answered (.deleteTemporary name) (.flag true)) name

/-- What an event makes of the table. -/
def Updates : Event → Registry → Registry → Prop
  | .answered (.promote _ name newName) (.flag true), table, after =>
    ∃ entry, entry.agentName = Store.promotedName name newName ∧ entry.usageCount = 0 ∧
      after = table ++ [(Store.promotedName name newName, entry)]
  | .answered (.incrementUsage name) _, table, after => after = table.count name
  | _, table, after => after = table

/-- A name that is registered after an event was so before, or is that of a promotion. -/
theorem Updates.keys {event : Event} {table after : Registry} (updates : event.Updates table after)
    (name : String) : name ∈ after.map Prod.fst ↔
      name ∈ table.map Prod.fst ∨ ∃ source, event.Promotes source name := by
  unfold Updates at updates
  split at updates
  · obtain ⟨entry, _, _, rfl⟩ := updates
    rw [List.map_append, List.mem_append, List.map_singleton, List.mem_singleton]
    refine or_congr_right ⟨?_, ?_⟩
    · rintro rfl
      exact ⟨_, .promote _ _ _⟩
    · rintro ⟨_, ⟨⟩⟩
      rfl
  · rw [updates, Registry.keys_count]
    refine (or_iff_left ?_).symm
    rintro ⟨_, ⟨⟩⟩
  · rename_i noPromotion _
    rw [updates]
    refine (or_iff_left ?_).symm
    rintro ⟨_, promotes⟩
    cases promotes
    exact noPromotion _ _ _ rfl

end Event

namespace Layout

variable {l : Layout} {disk later : Disk} {name target : String} {content : Content}
  {table after : Registry} {event : Event} {location : Location}

def Happens (l : Layout) (event : Event) (disk later : Disk) : Prop :=
  match event with
  | .answered operation answer => ∃ mishaps,
    (l.store.operated disk operation mishaps).1 = .ok answer ∧
      (l.store.operated disk operation mishaps).2.disk = later
  | .refused operation => ∃ mishaps error,
    (l.store.operated disk operation mishaps).1 = .error (.failed error) ∧
      (l.store.operated disk operation mishaps).2.disk = disk ∧ later = disk
  | .appeared name => l.Appears name disk later

/-- Events one after another. -/
abbrev Run (l : Layout) : Disk → Disk → Prop :=
  Relation.ReflTransGen fun disk later => ∃ event, l.Happens event disk later

/-- The two directories are different ones, and the registry is no definition of either. -/
structure Separate (l : Layout) : Prop where
  directories : l.place l.store.agentsDir ≠ l.place l.store.temporaryDir
  defined : ∀ name, l.place (l.store.agentsDir.definitionFile name) ≠ l.registryPlace
  temporary : ∀ name, l.place (l.store.temporaryDir.definitionFile name) ≠ l.registryPlace

/-- The registered names are those with a definition. -/
def Matches (l : Layout) (disk : Disk) (table : Registry) : Prop :=
  ∀ name, name ∈ table.map Prod.fst ↔ l.Holds disk (l.store.agentsDir.definitionFile name)

/-- A file goes as it is from one path to another one, at which there was none. -/
def Moves (l : Layout) (source target : Path) (disk later : Disk) : Prop :=
  ∃ content, disk.node? (l.place source) = some (.file content) ∧ ¬l.Holds disk target ∧
    later.node? (l.place target) = some (.file content) ∧ ¬l.Holds later source

/-- What an event does to the files and to the table. -/
structure Effect (l : Layout) (event : Event) (disk later : Disk) (table after : Registry) :
    Prop where
  table : event.Updates table after
  definitions : ∀ file content,
    disk.node? (l.place l.store.agentsDir ++ [file]) = some (.file content) →
      l.place l.store.agentsDir ++ [file] ≠ l.registryPlace →
        later.node? (l.place l.store.agentsDir ++ [file]) = some (.file content)
  arrivals : ∀ file content,
    later.node? (l.place l.store.agentsDir ++ [file]) = some (.file content) →
      l.place l.store.agentsDir ++ [file] ≠ l.registryPlace →
        disk.node? (l.place l.store.agentsDir ++ [file]) = some (.file content) ∨
          ∃ name target, event.Promotes name target ∧ file = target ++ definitionSuffix
  temporaries : ∀ file content,
    disk.node? (l.place l.store.temporaryDir ++ [file]) = some (.file content) →
      l.place l.store.temporaryDir ++ [file] ≠ l.registryPlace →
        later.node? (l.place l.store.temporaryDir ++ [file]) = some (.file content) ∨
          ∃ name, event.Takes name ∧ file = name ++ definitionSuffix
  promoted : ∀ name target, event.Promotes name target →
    l.Moves (l.store.temporaryPath name) (l.store.definedPath target) disk later

/-! ## What an event is about -/

/-- The places that an event is about. -/
inductive Concerns (l : Layout) (event : Event) : Location → Prop
  | journal : Concerns l event l.journalPlace
  | registry : Concerns l event l.registryPlace
  | takes {name : String} (takes : event.Takes name) :
      Concerns l event (l.place (l.store.temporaryPath name))
  | promotes {name target : String} (promotes : event.Promotes name target) :
      Concerns l event (l.place (l.store.definedPath target))
  | appears {name : String} (appears : event = .appeared name) :
      Concerns l event (l.place (l.store.temporaryDir.definitionFile name))

/-- An event leaves a disk at rest, and all files alone that it is not about. -/
structure Settles (l : Layout) (event : Event) (disk later : Disk) (table after : Registry) :
    Prop where
  leaves : Disk.Leaves (l.Concerns event) disk later
  rests : l.Rests later after
  updates : event.Updates table after
  takes : ∀ name, event.Takes name → isIdentifier name = true
  promotes : ∀ name target, event.Promotes name target → isIdentifier target = true ∧
    l.Moves (l.store.temporaryPath name) (l.store.definedPath target) disk later
  appears : ∀ name, event = .appeared name →
    ¬l.Holds disk (l.store.temporaryDir.definitionFile name)

/-- Nothing happens. -/
theorem Rests.settles (rests : l.Rests disk table) (updates : event.Updates table table)
    (takes : ∀ name, ¬event.Takes name) (appears : ∀ name, event ≠ .appeared name) :
    l.Settles event disk disk table table where
  leaves := .refl disk
  rests := rests
  updates := updates
  takes := fun name isTaken => absurd isTaken (takes name)
  promotes := fun name _ promotes => absurd (.promotes promotes) (takes name)
  appears := fun name isNew => absurd isNew (appears name)

theorem definition_ne (separate : l.Separate) (identifier : isIdentifier name = true)
    (targetIdentifier : isIdentifier target = true) :
    l.place (l.store.temporaryPath name) ≠ l.place (l.store.definedPath target) := by
  rw [Store.temporaryPath, Store.definedPath, place_definition identifier,
    place_definition targetIdentifier]
  intro same
  exact separate.directories (List.append_inj_left' same rfl).symm

theorem Promoted.settles {promotion : Promotion} {today : Date} {newName : Option String}
    (separate : l.Separate) (promoted : l.Promoted promotion table disk later)
    (identifier : isIdentifier name = true)
    (source : promotion.source = l.store.temporaryPath name)
    (named : promotion.entry.agentName = Store.promotedName name newName)
    (unused : promotion.entry.usageCount = 0) :
    l.Settles (.answered (.promote today name newName) (.flag true)) disk later table
      (table ++ [(promotion.entry.agentName, promotion.entry)]) := by
  have belongs := promoted.belongs
  have target : promotion.target =
      l.store.definedPath (Store.promotedName name newName) := named ▸ belongs.target
  have targetIdentifier : isIdentifier (Store.promotedName name newName) = true :=
    named ▸ belongs.identifier
  obtain ⟨content, file, arrives⟩ := promoted.moved
  have gone := arrives.gone
  have there := arrives.target
  have free := promoted.free
  rw [source] at file gone
  rw [target] at gone there free
  refine ⟨promoted.leaves.mono ?_, promoted.rests, ?_, ?_, ?_, nofun⟩
  · rintro location (rfl | rfl | rfl | rfl)
    · exact .journal
    · exact .registry
    · rw [source]
      exact .takes (.promotes (.promote today name newName))
    · rw [target]
      exact .promotes (.promote today name newName)
  · exact ⟨promotion.entry, named, unused, by rw [named]⟩
  · rintro _ ⟨⟨⟩⟩
    exact identifier
  · rintro _ _ ⟨⟩
    exact ⟨targetIdentifier, content, file, free, there,
      gone (definition_ne separate identifier targetIdentifier)⟩

/-- A place among the temporary agents is none at which a disk at rest is told. -/
theorem Rests.temporary (rests : l.Rests disk table) (separate : l.Separate)
    (leaves : Disk.Leaves (· = l.place (l.store.temporaryDir.definitionFile name)) disk later) :
    l.Rests later table := by
  have registry := Ne.symm (separate.temporary name)
  refine rests.next leaves (fun same => absurd same registry)
    (rests.records.left leaves registry) ?_ ?_
  · exact fun same => absurd same.symm (definitionFile_ne_journalPlace _ name)
  · intro other identifier same
    rw [Store.definedPath, place_definition identifier, place_definitionFile] at same
    exact absurd (List.append_inj_left' same rfl) separate.directories

theorem Rests.deleted (rests : l.Rests disk table) (separate : l.Separate)
    (identifier : isIdentifier name = true)
    (noDirectory : disk.node? (l.place (l.store.temporaryPath name)) ≠ some .directory)
    (alters : Disk.Alters (l.place (l.store.temporaryPath name)) none disk later) :
    l.Settles (.answered (.deleteTemporary name) (.flag true)) disk later table table := by
  have leaves := Disk.Leaves.ofAlters alters noDirectory
  have restsLater : l.Rests later table := by
    rw [Store.temporaryPath, definitionPath_eq_definitionFile identifier] at leaves
    exact rests.temporary separate leaves
  refine ⟨leaves.mono ?_, restsLater, rfl, ?_, nofun, nofun⟩
  · rintro _ rfl
    exact .takes (.deletes name)
  · rintro _ (⟨⟨⟩⟩ | _)
    exact identifier

theorem Rests.appeared (rests : l.Rests disk table) (separate : l.Separate)
    (appears : l.Appears name disk later) :
    l.Settles (.appeared name) disk later table table := by
  obtain ⟨between, content, furnished, _, free, rfl⟩ := appears
  have noDirectory := Disk.noDirectory_of_none free
  have alters := Disk.alters_put noDirectory (.file content)
  have leaves := (Disk.Leaves.ofFurnished furnished).trans (.ofAlters alters noDirectory)
  refine ⟨leaves.mono ?_, rests.temporary separate leaves, rfl, ?_, nofun, ?_⟩
  · rintro _ rfl
    exact .appears rfl
  · rintro _ ⟨⟨⟩⟩
  · rintro _ ⟨⟩ ⟨other, file⟩
    cases free.symm.trans (furnished.node?_some file)

theorem Rests.leads_operate (separate : l.Separate) (rests : l.Rests disk table)
    (operation : Operation) :
    (l.store.operate operation).Leads disk (.atEnd fun answer later =>
      ∃ after, l.Settles (.answered operation answer) disk later table after) := by
  have asks {α : Type} (operation : Operation) (question : Disk → Except Error α)
      (answer : α → Answer)
      (reads : ∀ a, l.Settles (.answered operation (answer a)) disk disk table table) :
      (Work.ask question >>= fun a => pure (answer a)).Leads disk (.atEnd fun answer later =>
        ∃ after, l.Settles (.answered operation answer) disk later table after) :=
    Work.leads_ask_atEnd fun a _ => Work.leads_pure_atEnd ⟨table, reads a⟩
  cases operation with
  | promote today name newName =>
      refine rests.leads_promote.bind_atEnd fun done later isDone => Work.leads_pure_atEnd ?_
      obtain ⟨rfl, rfl⟩ | ⟨rfl, identifier, promotion, source, named, unused, promoted⟩ := isDone
      · refine ⟨table, rests.settles rfl ?_ nofun⟩
        rintro _ ⟨⟨⟩⟩
      · exact ⟨_, promoted.settles separate identifier source named unused⟩
  | deleteTemporary name =>
      refine rests.leads_deleteTemporary.bind_atEnd fun done later isDone =>
        Work.leads_pure_atEnd ?_
      obtain ⟨rfl, rfl⟩ | ⟨rfl, identifier, noDirectory, alters⟩ := isDone
      · refine ⟨table, rests.settles rfl ?_ nofun⟩
        rintro _ ⟨⟨⟩⟩
      · exact ⟨table, rests.deleted separate identifier noDirectory alters⟩
  | incrementUsage name =>
      refine rests.leads_incrementUsage.bind_atEnd fun _ later counted => Work.leads_pure_atEnd ?_
      obtain ⟨leaves, restsLater⟩ := counted
      refine ⟨table.count name, leaves.mono ?_, restsLater, rfl, ?_, nofun, nofun⟩
      · rintro _ rfl
        exact .registry
      · rintro _ ⟨⟨⟩⟩
  | recover =>
      refine rests.leads_recover.bind_atEnd fun done later isDone => Work.leads_pure_atEnd ?_
      obtain ⟨rfl, rfl⟩ := isDone
      exact ⟨table, rests.settles rfl (by rintro _ ⟨⟨⟩⟩) nofun⟩
  | load => exact asks _ _ _ fun _ => rests.settles rfl (by rintro _ ⟨⟨⟩⟩) nofun
  | get name => exact asks _ _ _ fun _ => rests.settles rfl (by rintro _ ⟨⟨⟩⟩) nofun
  | listDefined => exact asks _ _ _ fun _ => rests.settles rfl (by rintro _ ⟨⟨⟩⟩) nofun
  | listTemporary => exact asks _ _ _ fun _ => rests.settles rfl (by rintro _ ⟨⟨⟩⟩) nofun

/-- After an event the disk is at rest again. -/
theorem Rests.happens (separate : l.Separate) (rests : l.Rests disk table)
    (happens : l.Happens event disk later) :
    ∃ after, l.Settles event disk later table after := by
  cases event with
  | answered operation answer =>
      obtain ⟨mishaps, answered, rfl⟩ := happens
      exact (rests.leads_operate separate operation).ended rfl answered
  | refused operation =>
      obtain ⟨_, _, _, _, rfl⟩ := happens
      exact ⟨table, rests.settles rfl (by rintro _ ⟨⟨⟩⟩) nofun⟩
  | appeared name => exact ⟨table, rests.appeared separate happens⟩

/-! ## What follows for the files -/

/-- Among the defined agents an event is about the definition only that arrives. -/
theorem Settles.concerns_defined {file : String} (separate : l.Separate)
    (settles : l.Settles event disk later table after) (concerns : l.Concerns event location)
    (shape : location = l.place l.store.agentsDir ++ [file]) :
    location = l.journalPlace ∨ location = l.registryPlace ∨
      ∃ name target, event.Promotes name target ∧ location = l.place (l.store.definedPath target) ∧
        file = target ++ definitionSuffix := by
  have elsewhere {name : String} (same : l.place l.store.temporaryDir ++ [name ++ definitionSuffix] =
      l.place l.store.agentsDir ++ [file]) : False :=
    separate.directories (List.append_inj_left' same rfl).symm
  cases concerns with
  | journal => exact .inl rfl
  | registry => exact .inr (.inl rfl)
  | takes takes =>
      rw [Store.temporaryPath, place_definition (settles.takes _ takes)] at shape
      exact (elsewhere shape).elim
  | @promotes name target promotes =>
      refine .inr (.inr ⟨name, target, promotes, rfl, ?_⟩)
      rw [Store.definedPath, place_definition (settles.promotes _ _ promotes).1] at shape
      simpa using shape.symm
  | appears _ =>
      rw [place_definitionFile] at shape
      exact (elsewhere shape).elim

/-- Among the temporary agents an event is about the definitions only that leave or appear. -/
theorem Settles.concerns_temporary {file : String} (separate : l.Separate)
    (settles : l.Settles event disk later table after) (concerns : l.Concerns event location)
    (shape : location = l.place l.store.temporaryDir ++ [file]) :
    location = l.journalPlace ∨ location = l.registryPlace ∨
      (∃ name, event.Takes name ∧ file = name ++ definitionSuffix) ∨
      ∃ name, event = .appeared name ∧
        location = l.place (l.store.temporaryDir.definitionFile name) := by
  cases concerns with
  | journal => exact .inl rfl
  | registry => exact .inr (.inl rfl)
  | @takes name takes =>
      refine .inr (.inr (.inl ⟨name, takes, ?_⟩))
      rw [Store.temporaryPath, place_definition (settles.takes _ takes)] at shape
      simpa using shape.symm
  | promotes promotes =>
      rw [Store.definedPath, place_definition (settles.promotes _ _ promotes).1] at shape
      exact absurd (List.append_inj_left' shape rfl) separate.directories
  | @appears name isNew => exact .inr (.inr (.inr ⟨name, isNew, rfl⟩))

theorem Settles.effect (settles : l.Settles event disk later table after)
    (separate : l.Separate) (rests : l.Rests disk table) :
    l.Effect event disk later table after where
  table := settles.updates
  definitions := by
    intro file content found apart
    by_cases concerns : l.Concerns event (l.place l.store.agentsDir ++ [file])
    · rcases settles.concerns_defined separate concerns rfl with
        journal | registry | ⟨name, target, promotes, atTarget, _⟩
      · rw [journal] at found
        exact absurd ⟨content, found⟩ rests.noJournal
      · exact absurd registry apart
      · obtain ⟨_, _, _, free, _⟩ := settles.promotes name target promotes
        exact absurd ⟨content, atTarget ▸ found⟩ free
    · exact (settles.leaves.file _ _ concerns).mpr found
  arrivals := by
    intro file content found apart
    by_cases concerns : l.Concerns event (l.place l.store.agentsDir ++ [file])
    · rcases settles.concerns_defined separate concerns rfl with
        journal | registry | ⟨name, target, promotes, _, named⟩
      · rw [journal] at found
        exact absurd ⟨content, found⟩ settles.rests.noJournal
      · exact absurd registry apart
      · exact .inr ⟨name, target, promotes, named⟩
    · exact .inl ((settles.leaves.file _ _ concerns).mp found)
  temporaries := by
    intro file content found apart
    by_cases concerns : l.Concerns event (l.place l.store.temporaryDir ++ [file])
    · rcases settles.concerns_temporary separate concerns rfl with
        journal | registry | taken | ⟨name, isNew, here⟩
      · rw [journal] at found
        exact absurd ⟨content, found⟩ rests.noJournal
      · exact absurd registry apart
      · exact .inr taken
      · exact absurd ⟨content, here ▸ found⟩ (settles.appears name isNew)
    · exact .inl ((settles.leaves.file _ _ concerns).mpr found)
  promoted := fun name target promotes => (settles.promotes name target promotes).2

/-- The registered names stay those with a definition. -/
theorem Settles.matches (settles : l.Settles event disk later table after)
    (separate : l.Separate) (rests : l.Rests disk table) (same : l.Matches disk table) :
    l.Matches later after := by
  have effect := settles.effect separate rests
  intro name
  have apart := separate.defined name
  rw [settles.updates.keys, same name, Holds, Holds, place_definitionFile]
  rw [place_definitionFile] at apart
  constructor
  · rintro (⟨content, found⟩ | ⟨source, promotes⟩)
    · exact ⟨content, effect.definitions _ content found apart⟩
    · obtain ⟨identifier, content, _, _, there, _⟩ := settles.promotes source name promotes
      rw [Store.definedPath, place_definition identifier] at there
      exact ⟨content, there⟩
  · rintro ⟨content, found⟩
    rcases effect.arrivals _ content found apart with before | ⟨source, target, promotes, named⟩
    · exact .inl ⟨content, before⟩
    · exact .inr ⟨source, Disk.eq_of_definition_eq named ▸ promotes⟩

/-! ## Runs -/

/-- A run leads from rest to rest. -/
theorem Rests.run (separate : l.Separate) (rests : l.Rests l.start table)
    (run : l.Run l.start disk) :
    ∃ now, l.Rests disk now ∧ (l.Matches l.start table → l.Matches disk now) := by
  induction run with
  | refl => exact ⟨table, rests, id⟩
  | tail _ step induction =>
      obtain ⟨event, happens⟩ := step
      obtain ⟨now, restsNow, stillMatches⟩ := induction
      obtain ⟨after, settles⟩ := restsNow.happens separate happens
      exact ⟨after, settles.rests,
        fun same => settles.matches separate restsNow (stillMatches same)⟩

end Layout

end AgentFlow
