import AgentFlow.Proofs.Agent.Protocol
import AgentFlow.Proofs.Agent.Replay

/-!
# Operations and the world around a store

A store is asked for operations, each of which may meet mishaps, and between them new
definitions may appear among the temporary ones.  This module says what the store is
asked for, and what each piece of an operation does to the files of a layout.
-/

namespace AgentFlow

open AgentFlow.Text

/-- What a store can be asked to do. -/
inductive Operation where
  | promote (today : Date) (name : String) (newName : Option String)
  | deleteTemporary (name : String)
  | incrementUsage (name : String)
  | recover
  | load
  | get (name : String)
  | listDefined
  | listTemporary
  deriving DecidableEq

/-- What an operation answers. -/
inductive Answer where
  | nothing
  | flag (done : Bool)
  | table (registry : Registry)
  | entry (entry : Option Entry)
  | names (names : List String)
  deriving DecidableEq

/-- Work of which only the answer is put in another form. -/
theorem Work.bind_pure_run {ε α β : Type} (work : Work ε α) (form : α → β) (machine : Machine) :
    (work >>= fun a => pure (form a)) machine =
      ((work machine).1.map form, (work machine).2) := by
  rcases ended : work machine with ⟨halt | a, later⟩
  · exact bind_of_error ended
  · exact bind_of_ok ended

namespace Store

/-- Do an operation. -/
def operate (store : Store) : Operation → Work Error Answer
  | .promote today name newName => store.promote today name newName >>= fun done => pure (.flag done)
  | .deleteTemporary name => store.deleteTemporary name >>= fun done => pure (.flag done)
  | .incrementUsage name => store.incrementUsage name >>= fun _ => pure .nothing
  | .recover => store.recover >>= fun done => pure (.flag done)
  | .load => Work.ask store.load >>= fun table => pure (.table table)
  | .get name => Work.ask (store.get · name) >>= fun entry => pure (.entry entry)
  | .listDefined => Work.ask store.listDefined >>= fun names => pure (.names names)
  | .listTemporary => Work.ask store.listTemporary >>= fun names => pure (.names names)

/-- How an operation ends whose changes meet some mishaps. -/
def operated (store : Store) (disk : Disk) (operation : Operation) (mishaps : List Mishap) :
    Except (Halt Error) Answer × Machine :=
  store.operate operation ⟨disk, mishaps, [], []⟩

/-- What a deletion leads to: the definition of an agent that is there is removed.  Otherwise,
and without an answer, nothing is done. -/
theorem leads_deleteTemporary {store : Store} {disk : Disk} {name : String}
    {after : Outcomes Error Bool} (failed : ∀ e, after.failed e disk) (stopped : after.stopped disk)
    (absent : after.done false disk)
    (removed : isIdentifier name = true → disk.isFile (store.temporaryPath name) = .ok true →
      ∀ later, disk.node? (disk.destination (store.temporaryPath name)) ≠ some .directory →
        Disk.Alters (disk.destination (store.temporaryPath name)) none disk later →
          after.done true later) :
    (store.deleteTemporary name).Leads disk after := by
  refine Work.leads_ask_bind (fun isThere asked => ?_) fun e _ => failed e
  cases isThere with
  | false => exact Work.leads_pure absent
  | true =>
      obtain ⟨identifier, isFile⟩ := hasTemporary_eq_true asked
      have removes : ((Work.perform (.remove (store.temporaryPath name))).mapFault
          Error.unexpected).Leads disk
            ⟨fun _ later => disk.node? (disk.destination (store.temporaryPath name)) ≠ some .directory ∧
                Disk.Alters (disk.destination (store.temporaryPath name)) none disk later,
              fun _ later => later = disk, fun later => later = disk⟩ :=
        .mapFault (Work.leads_remove _)
      refine removes.bind ?_ ?_ ?_
      · rintro _ later ⟨noDirectory, alters⟩
        exact Work.leads_tell_bind
          (Work.leads_pure (removed identifier isFile later noDirectory alters))
      · rintro e _ rfl
        exact failed e
      · rintro _ rfl
        exact stopped

end Store

/-- The path of the file of a definition.  The name need not be one of an agent. -/
def Path.definitionFile (directory : Path) (name : String) : Path :=
  ⟨directory.slashes, directory.parts ++ [name ++ definitionSuffix]⟩

theorem definitionPath_eq_definitionFile {directory : Path} {name : String}
    (identifier : isIdentifier name = true) :
    definitionPath directory name = directory.definitionFile name :=
  definitionPath_eq identifier

theorem Disk.destination_definitionFile (disk : Disk) (directory : Path) (name : String) :
    disk.destination (directory.definitionFile name) =
      disk.destination directory ++ [name ++ definitionSuffix] :=
  destination_of_parts rfl (definition_ne_dots name)

theorem Path.parent_definitionFile (directory : Path) (name : String) :
    (directory.definitionFile name).parent = directory := by
  simp [parent, definitionFile]

namespace Layout

variable {l : Layout} {disk later : Disk} {name : String}

/-! ## Places of definition files -/

theorem place_definitionFile (directory : Path) (name : String) :
    l.place (directory.definitionFile name) = l.place directory ++ [name ++ definitionSuffix] :=
  Disk.destination_definitionFile l.start directory name

theorem place_definition {directory : Path} (identifier : isIdentifier name = true) :
    l.place (definitionPath directory name) = l.place directory ++ [name ++ definitionSuffix] := by
  rw [definitionPath_eq_definitionFile identifier, place_definitionFile]

theorem ending_definitionFile (directory : Path) (name : String) :
    Disk.ending (l.place (directory.definitionFile name)) = some 'd' := by
  rw [place_definitionFile]
  exact Disk.ending_concat _ name rfl

theorem lasting_definitionFile (directory : Path) (name : String) :
    l.Lasting (l.place (directory.definitionFile name)) := fun n => by
  constructor
  all_goals
    apply Disk.ne_of_ending
    rw [ending_definitionFile, place, Disk.ending_temporary]
    decide

theorem definitionFile_ne_journalPlace (directory : Path) (name : String) :
    l.place (directory.definitionFile name) ≠ l.journalPlace := by
  apply Disk.ne_of_ending
  rw [ending_definitionFile, journalPlace, place, Store.ending_journal l.journalPath]
  decide

theorem definitionFile_inj {directory : Path} {other : String}
    (same : l.place (directory.definitionFile name) = l.place (directory.definitionFile other)) :
    name = other := by
  rw [place_definitionFile, place_definitionFile] at same
  exact Disk.eq_of_definition_eq (by simpa using same)

/-! ## The world around -/

/-- A new definition appears among the temporary ones, with the directories that it needs. -/
def Appears (l : Layout) (name : String) (disk later : Disk) : Prop :=
  ∃ between content,
    Disk.Furnished (disk.OnWay l.store.temporaryDir) disk between ∧
    between.Reaches (l.store.temporaryDir.definitionFile name) ∧
    between.node? (l.place (l.store.temporaryDir.definitionFile name)) = none ∧
    later = between.put (l.place (l.store.temporaryDir.definitionFile name)) (.file content)

theorem Appears.spares (appears : l.Appears name disk later) :
    l.Spares (· = l.place (l.store.temporaryDir.definitionFile name)) disk later := by
  obtain ⟨between, _, furnished, _, free, rfl⟩ := appears
  have noDirectory := Disk.noDirectory_of_none free
  exact (Spares.ofFurnished furnished).trans
    (.ofAlters (Disk.alters_put noDirectory _) noDirectory)

/-! ## Files beside the registry -/

/-- No directory is new. -/
def NoneMade (disk later : Disk) : Prop :=
  ∀ location, later.node? location = some .directory → disk.node? location = some .directory

theorem NoneMade.trans {last : Disk} (first : NoneMade disk later) (second : NoneMade later last) :
    NoneMade disk last :=
  fun location made => first location (second location made)

theorem NoneMade.ofFurnished {ways : Location → Prop} (furnished : Disk.Furnished ways disk later)
    (paved : ∀ location, ways location → disk.node? location = some .directory) :
    NoneMade disk later := by
  intro location made
  rwa [furnished.node?_eq paved] at made

theorem NoneMade.ofAlters {location : Location} {node : Option Node}
    (alters : Disk.Alters location node disk later) (noDirectory : node ≠ some .directory) :
    NoneMade disk later := by
  intro other made
  rw [alters.node] at made
  split at made
  · exact absurd made noDirectory
  · exact made

/-- Files beside the registry are written.  Where the journal can be, all directories that this
needs are there. -/
structure Rewrites (l : Layout) (touched : Location → Prop) (disk later : Disk) : Prop where
  spares : l.Spares touched disk later
  noneMade : disk.Reaches l.journal → NoneMade disk later

theorem Rewrites.refl {touched : Location → Prop} (disk : Disk) : l.Rewrites touched disk disk :=
  ⟨.refl disk, fun _ _ => id⟩

theorem leads_atomicWrite_beside (current : disk.current = l.start.current) {path : Path}
    (beside : path = l.journal ∨ path = l.store.registryPath) (text : String) :
    (Work.atomicWrite path text).Leads disk
      ⟨fun _ later => l.Rewrites (· = l.place path) disk later ∧ later.Reaches path ∧
          later.node? (l.place path) = some (.file (.text text)),
        fun _ => l.Rewrites Nothing disk, l.Rewrites Nothing disk⟩ := by
  have paved (reaches : disk.Reaches l.journal) (location : Location)
      (onWay : disk.OnWay path.parent location) : disk.node? location = some .directory := by
    have sameParent : path.parent = l.store.registryPath.parent := by
      rcases beside with rfl | rfl
      · exact Store.journal_parent l.journalPath
      · rfl
    exact Store.registry_paved l.journalPath reaches location (sameParent ▸ onWay)
  refine (Work.leads_atomicWrite disk path text).mono ?_ ?_ ?_
  · rintro _ later ⟨between, furnished, written⟩
    obtain ⟨alters, noDirectory⟩ := alters_written (furnished.current.trans current) written
    refine ⟨⟨(Spares.ofFurnished furnished).trans (.ofAlters alters noDirectory), fun reaches => ?_⟩,
      written.reaches, alters.here⟩
    exact (NoneMade.ofFurnished furnished (paved reaches)).trans (.ofAlters alters nofun)
  · intro _ later furnished
    exact ⟨.ofFurnished furnished, fun reaches => .ofFurnished furnished (paved reaches)⟩
  · rintro later ⟨between, furnished, littered⟩
    have betweenCurrent := furnished.current.trans current
    refine ⟨(Spares.ofFurnished furnished).trans (.ofLittered betweenCurrent beside littered),
      fun reaches => (NoneMade.ofFurnished furnished (paved reaches)).trans ?_⟩
    rcases littered with rfl | ⟨_, _, _, alters⟩
    · exact fun _ => id
    · exact .ofAlters alters nofun

end Layout

end AgentFlow
