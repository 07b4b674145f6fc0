import AgentFlow.Agent.Promotion
import AgentFlow.Proofs.Agent.Places
import AgentFlow.Proofs.Files.Outcome
import AgentFlow.Proofs.Files.Path
import AgentFlow.Proofs.Files.Disk

/-!
# What a promotion asks first, and what its journal says

A promotion decides everything by questions about the disk before its first change:
`Decides` has a constructor for each answer.  What it has decided is all in the journal:
a journal that was written is read back as the same promotion.  A recovery reads the
journal and resumes the promotion that it tells of.
-/

namespace AgentFlow

open AgentFlow.Json AgentFlow.Number AgentFlow.Text

namespace Store

variable {store : Store} {disk : Disk}

/-! ## The decision -/

/-- The name that an agent is promoted to. -/
def promotedName (name : String) (newName : Option String) : String :=
  (newName.filter (!·.isEmpty)).getD name

/-- What is decided about a promotion: a record says why nothing is done, or the
promotion is to be made. -/
def intend (store : Store) (today : Date) (name : String) (newName : Option String)
    (disk : Disk) : Except Error (Except Log.Record Promotion) :=
  let target := promotedName name newName
  let source := store.temporaryPath name
  let defined := store.definedPath target
  if !isIdentifier target then .error (.form (.agentName target))
  else do
    if !(← store.hasTemporary disk name) then
      return .error ⟨.warning, logger, "Temp agent not found: " ++ name⟩
    let registry ← store.load disk
    if (← asks (disk.pathExists defined)) || registry.contains target then
      return .error ⟨.warning, logger,
        "Defined agent '" ++ target ++ "' already exists (" ++ defined.text ++
          "); not promoting '" ++ name ++ "'"⟩
    let text ← (disk.readText source).mapError
      (wrapAccess fun fault => .registry (.unreadableAgent fault) source)
    let description ← (Definition.describe text).mapError fun fault => .unexpected (.value fault)
    let entry : Entry := {
      agentName := target
      file := defined.name
      description := description
      created := today.text
      usageCount := 0 }
    return .ok ⟨source, defined, .text target, entry⟩

/-- The changes of a promotion that is to be made. -/
def commit (store : Store) (name : String) (promotion : Promotion) : Work Error Bool := do
  store.writeJournal promotion
  store.applyPromotion promotion
  store.clearJournal
  Work.tell ⟨.info, logger,
    "Promoted temp agent '" ++ name ++ "' to defined agent '" ++
      promotion.entry.agentName ++ "'"⟩
  return true

/-- Nothing is changed before everything is decided. -/
theorem promote_eq (store : Store) (today : Date) (name : String) (newName : Option String) :
    store.promote today name newName =
      Work.ask (store.intend today name newName) >>= fun
        | .error record => do
          Work.tell record
          return false
        | .ok promotion => store.commit name promotion := by
  unfold promote intend promotedName
  simp only [Work.ask_ite, Work.ask_bind, Work.ask_ofExcept, Work.ofExcept_pure,
    Work.ofExcept_error, Work.fail_bind, Work.ite_bind, bind_assoc, pure_bind]
  rfl

theorem promote_of_error {today : Date} {name : String} {newName : Option String}
    {machine : Machine} {error : Error}
    (decided : store.intend today name newName machine.disk = .error error) :
    store.promote today name newName machine = (.error (.failed error), machine) := by
  rw [promote_eq, Work.ask_bind_of_error decided]

theorem promote_of_record {today : Date} {name : String} {newName : Option String}
    {machine : Machine} {record : Log.Record}
    (decided : store.intend today name newName machine.disk = .ok (.error record)) :
    store.promote today name newName machine =
      (.ok false, { machine with records := machine.records ++ [record] }) := by
  rw [promote_eq, Work.ask_bind_of_ok decided]
  rfl

theorem promote_of_promotion {today : Date} {name : String} {newName : Option String}
    {machine : Machine} {promotion : Promotion}
    (decided : store.intend today name newName machine.disk = .ok (.ok promotion)) :
    store.promote today name newName machine = store.commit name promotion machine := by
  rw [promote_eq, Work.ask_bind_of_ok decided]

/-- What is known about a promotion that is to be made. -/
structure Intends (store : Store) (name : String) (disk : Disk) (promotion : Promotion) :
    Prop where
  isFile : disk.isFile promotion.source = .ok true
  nameIsIdentifier : isIdentifier name = true
  targetIsIdentifier : isIdentifier promotion.entry.agentName = true
  source : promotion.source = store.temporaryPath name
  target : promotion.target = store.definedPath promotion.entry.agentName
  loaded : ∃ table, store.load disk = .ok table ∧
    table.contains promotion.entry.agentName = false
  free : disk.pathExists promotion.target = .ok false
  named : promotion.name = .text promotion.entry.agentName
  file : promotion.entry.file = promotion.target.name
  unused : promotion.entry.usageCount = 0

theorem asks_eq_ok_iff {question : Except FileFault Bool} {answer : Bool} :
    asks question = .ok answer ↔ question = .ok answer :=
  mapError_eq_ok_iff

theorem hasTemporary_eq_true {name : String} (found : store.hasTemporary disk name = .ok true) :
    isIdentifier name = true ∧ disk.isFile (store.temporaryPath name) = .ok true := by
  unfold hasTemporary at found
  split at found
  · rename_i identifier
    exact ⟨identifier, asks_eq_ok_iff.mp found⟩
  · cases found

/-- The promotion that is made of what was asked. -/
def proposed (store : Store) (today : Date) (name target description : String) : Promotion :=
  ⟨store.temporaryPath name, store.definedPath target, .text target,
    ⟨target, (store.definedPath target).name, description, today.text, 0⟩⟩

/-- What is decided about a promotion: the first guard that it does not pass says why it is not
made, and past all of them it is. -/
inductive Decides (store : Store) (today : Date) (name target : String) (disk : Disk) :
    Except Error (Except Log.Record Promotion) → Prop
  | badName : isIdentifier target = false →
      Decides store today name target disk (.error (.form (.agentName target)))
  | unasked {error : Error} : store.hasTemporary disk name = .error error →
      Decides store today name target disk (.error error)
  | absent : store.hasTemporary disk name = .ok false →
      Decides store today name target disk
        (.ok (.error ⟨.warning, logger, "Temp agent not found: " ++ name⟩))
  | unloaded {error : Error} : store.hasTemporary disk name = .ok true →
      store.load disk = .error error → Decides store today name target disk (.error error)
  | unplaced {error : Error} : store.hasTemporary disk name = .ok true →
      asks (disk.pathExists (store.definedPath target)) = .error error →
      Decides store today name target disk (.error error)
  | taken {table : Registry} {isThere : Bool} : store.hasTemporary disk name = .ok true →
      store.load disk = .ok table → disk.pathExists (store.definedPath target) = .ok isThere →
      (isThere || table.contains target) = true →
      Decides store today name target disk (.ok (.error ⟨.warning, logger,
        "Defined agent '" ++ target ++ "' already exists (" ++ (store.definedPath target).text ++
          "); not promoting '" ++ name ++ "'"⟩))
  | unread {fault : Fault} : store.hasTemporary disk name = .ok true →
      disk.readText (store.temporaryPath name) = .error fault →
      Decides store today name target disk (.error (wrapAccess
        (fun fault => .registry (.unreadableAgent fault) (store.temporaryPath name)) fault))
  | undescribed {text : String} {fault : ValueFault} : store.hasTemporary disk name = .ok true →
      Definition.describe text = .error fault →
      Decides store today name target disk (.error (.unexpected (.value fault)))
  | intended {table : Registry} {description : String} : isIdentifier target = true →
      store.hasTemporary disk name = .ok true → store.load disk = .ok table →
      disk.pathExists (store.definedPath target) = .ok false → table.contains target = false →
      Decides store today name target disk (.ok (.ok (store.proposed today name target description)))

theorem decides_intend (store : Store) (today : Date) (name : String) (newName : Option String)
    (disk : Disk) : store.Decides today name (promotedName name newName) disk
      (store.intend today name newName disk) := by
  unfold intend
  generalize promotedName name newName = target
  dsimp only
  rcases identifier : isIdentifier target with _ | _
  · exact .badName identifier
  rcases asked : store.hasTemporary disk name with error | (_ | _)
  · exact .unasked asked
  · exact .absent asked
  rcases loaded : store.load disk with error | table
  · exact .unloaded asked loaded
  rcases placed : asks (disk.pathExists (store.definedPath target)) with error | isThere
  · exact .unplaced asked placed
  have exists_ := asks_eq_ok_iff.mp placed
  simp only [bind, Except.bind]
  rcases taken : isThere || table.contains target with _ | _
  · obtain ⟨rfl, unlisted⟩ := Bool.or_eq_false_iff.mp taken
    rcases read : disk.readText (store.temporaryPath name) with fault | text
    · exact .unread asked read
    simp only [Except.mapError]
    rcases described : Definition.describe text with fault | description
    · exact .undescribed asked described
    · exact .intended identifier asked loaded exists_ unlisted
  · exact .taken asked loaded exists_ taken

theorem intends_of_intend {today : Date} {name : String} {newName : Option String}
    {promotion : Promotion} (decided : store.intend today name newName disk = .ok (.ok promotion)) :
    store.Intends name disk promotion ∧
      promotion.entry.agentName = promotedName name newName := by
  have decides := store.decides_intend today name newName disk
  rw [decided] at decides
  cases decides with
  | intended identifier asked loaded free unlisted =>
      obtain ⟨nameIsIdentifier, isFile⟩ := hasTemporary_eq_true asked
      refine ⟨?_, rfl⟩
      exact {
        isFile := isFile
        nameIsIdentifier := nameIsIdentifier
        targetIsIdentifier := identifier
        source := rfl
        target := rfl
        loaded := ⟨_, loaded, unlisted⟩
        free := free
        named := rfl
        file := rfl
        unused := rfl }

theorem intend_of_notFound {today : Date} {name : String} {newName : Option String}
    (identifier : isIdentifier (promotedName name newName) = true)
    (notFound : store.hasTemporary disk name = .ok false) :
    store.intend today name newName disk =
      .ok (.error ⟨.warning, logger, "Temp agent not found: " ++ name⟩) := by
  unfold intend
  simp only [identifier, notFound]
  rfl

/-- What a promotion leads to: nothing is done if it is turned away, and otherwise it is made. -/
theorem leads_promote {today : Date} {name : String} {newName : Option String}
    {after : Outcomes Error Bool} (failed : ∀ e, after.failed e disk)
    (declined : after.done false disk)
    (made : ∀ promotion, store.intend today name newName disk = .ok (.ok promotion) →
      (store.commit name promotion).Leads disk after) :
    (store.promote today name newName).Leads disk after := by
  rw [promote_eq]
  refine Work.leads_ask_bind ?_ fun e _ => failed e
  rintro (record | promotion) decided
  · exact Work.leads_tell_bind (Work.leads_pure declined)
  · exact made promotion decided

theorem Intends.isFor {name : String} {promotion : Promotion}
    (intends : store.Intends name disk promotion) :
    promotion.entry.IsFor promotion.entry.agentName where
  agentName := rfl
  file := by
    rw [intends.file, intends.target, definedPath, name_definitionPath intends.targetIsIdentifier]
    exact definition_ne_empty _

theorem Intends.isCountable {name : String} {promotion : Promotion}
    (intends : store.Intends name disk promotion) : promotion.entry.IsCountable :=
  Entry.isCountable_of_unused intends.unused

end Store

/-! ## The journal -/

namespace Promotion

/-- What a promotion is if its journal tells all about it. -/
structure IsTold (promotion : Promotion) : Prop where
  named : promotion.name = .text promotion.entry.agentName
  entry : promotion.entry.IsFor promotion.entry.agentName
  countable : promotion.entry.IsCountable
  source : promotion.source.IsSpelled
  target : promotion.target.IsSpelled

theorem isTold_of_intends {store : Store} {name : String} {disk : Disk} {promotion : Promotion}
    (intends : store.Intends name disk promotion) (agents : store.agentsDir.IsSpelled)
    (temporary : store.temporaryDir.IsSpelled) : promotion.IsTold where
  named := intends.named
  entry := intends.isFor
  countable := intends.isCountable
  source := intends.source ▸ isSpelled_definitionPath temporary intends.nameIsIdentifier
  target := intends.target ▸ isSpelled_definitionPath agents intends.targetIsIdentifier

theorem ofValue_toDocument {promotion : Promotion} (told : promotion.IsTold) :
    ofValue promotion.toDocument.toValue = .ok promotion := by
  obtain ⟨source, target, name, entry⟩ := promotion
  obtain rfl : name = .text entry.agentName := told.named
  have readEntry : Entry.ofValue entry.agentName (.table entry.fields) = .ok entry :=
    Entry.ofFields_fields told.entry
  have readSource : Path.ofText source.text = source := Path.ofText_text told.source
  have readTarget : Path.ofText target.text = target := Path.ofText_text told.target
  show ofValue (.table [(.text "name", .text entry.agentName), (.text "source", .text source.text),
    (.text "target", .text target.text), (.text "entry", .table entry.fields)]) = _
  simp [ofValue, member, Value.lookup?, pathOf, readSource, readTarget, readEntry,
    Value.displayText_text, bind, Except.bind]

theorem readable_toDocument {promotion : Promotion} (told : promotion.IsTold) :
    promotion.toDocument.Readable maxDepth := by
  refine ⟨by decide, by simp, ?_⟩
  exact ⟨trivial, trivial, trivial, Entry.readable_toDocument told.countable (by decide), trivial⟩

/-- A journal that was written is read as the promotion it was written for. -/
theorem read_written {disk : Disk} {journal : Path} {promotion : Promotion}
    (told : promotion.IsTold) (reaches : disk.Reaches journal)
    (file : disk.node? (disk.destination journal) =
      some (.file (.text promotion.toDocument.fileText))) :
    read disk journal = .ok promotion := by
  have text := Disk.readText_written reaches file
  have value := Json.read_fileText (readable_toDocument told)
  unfold read
  refine bind_eq_ok_iff.mpr ⟨_, mapError_eq_ok_iff.mpr text, ?_⟩
  refine bind_eq_ok_iff.mpr ⟨_, mapError_eq_ok_iff.mpr value, ?_⟩
  exact mapError_eq_ok_iff.mpr (ofValue_toDocument told)

theorem read_of_fileAt {disk : Disk} {journal : Path} {promotion : Promotion}
    {location : Location} (told : promotion.IsTold) (found : (disk.fileAt journal).toOption =
      some (location, .text promotion.toDocument.fileText)) :
    read disk journal = .ok promotion := by
  obtain ⟨reaches, rfl, file⟩ := Disk.fileAt_eq_ok_iff.mp (toOption_eq_some_iff.mp found)
  exact read_written told reaches file

/-- A journal that can be read is a file that is reached. -/
theorem file_of_read {disk : Disk} {journal : Path} {promotion : Promotion}
    (isRead : read disk journal = .ok promotion) :
    disk.Reaches journal ∧
      ∃ content, disk.node? (disk.destination journal) = some (.file content) := by
  obtain ⟨text, readText, _⟩ := bind_eq_ok_iff.mp isRead
  obtain ⟨⟨location, content⟩, found, _⟩ := bind_eq_ok_iff.mp (mapError_eq_ok_iff.mp readText)
  obtain ⟨reaches, rfl, file⟩ := Disk.fileAt_eq_ok_iff.mp found
  exact ⟨reaches, content, file⟩

end Promotion

/-! ## The recovery -/

namespace Store

variable {store : Store} {journal : Path} {disk : Disk} {machine : Machine} {promotion : Promotion}

/-- What a recovery does with the promotion that the journal tells of. -/
def resume (store : Store) (promotion : Promotion) : Work Error Bool := do
  let name := promotion.name.displayText
  if !(← Work.ask (definitionRemains promotion)) then
    Work.tell ⟨.warning, logger,
      "Dropping promotion journal for '" ++ name ++ "': definition file is gone"⟩
    store.clearJournal
    return false
  store.applyPromotion promotion
  store.clearJournal
  Work.tell ⟨.info, logger, "Recovered interrupted promotion of '" ++ name ++ "'"⟩
  return true

/-- A recovery reads the journal, if there is one, and resumes what it tells of. -/
theorem recover_eq (journalPath : store.journalPath = .ok journal) :
    store.recover =
      Work.ask (fun disk => asks (disk.pathExists journal)) >>= fun isThere =>
        if isThere = true then Work.ask (Promotion.read · journal) >>= store.resume
        else pure false := by
  unfold recover
  rw [journalPath, show (Except.ok journal : Except Error Path) = pure journal from rfl,
    Work.ofExcept_pure, pure_bind]
  refine bind_congr fun isThere => ?_
  cases isThere <;> rfl

/-- A recovery without a journal does nothing. -/
theorem recover_of_gone (journalPath : store.journalPath = .ok journal)
    (isGone : machine.disk.pathExists journal = .ok false) :
    store.recover machine = (.ok false, machine) := by
  rw [recover_eq journalPath, Work.ask_bind_of_ok (asks_eq_ok_iff.mpr isGone)]
  rfl

theorem recover_of_read (journalPath : store.journalPath = .ok journal)
    (read : Promotion.read machine.disk journal = .ok promotion) :
    store.recover machine = store.resume promotion machine := by
  obtain ⟨reaches, content, file⟩ := Promotion.file_of_read read
  have isThere : machine.disk.pathExists journal = .ok true :=
    Disk.pathExists_eq_true_iff.mpr ⟨reaches, Option.isSome_of_eq_some file⟩
  rw [recover_eq journalPath, Work.ask_bind_of_ok (asks_eq_ok_iff.mpr isThere), if_pos rfl,
    Work.ask_bind_of_ok read]

/-- What a recovery leads to: without a journal it ends at once, and otherwise it resumes. -/
theorem leads_recover {after : Outcomes Error Bool} (journalPath : store.journalPath = .ok journal)
    (failed : ∀ e, after.failed e disk)
    (gone : disk.pathExists journal = .ok false → after.done false disk)
    (resumes : ∀ promotion, Promotion.read disk journal = .ok promotion →
      (store.resume promotion).Leads disk after) : store.recover.Leads disk after := by
  rw [recover_eq journalPath]
  refine Work.leads_ask_bind (fun isThere asked => ?_) fun e _ => failed e
  cases isThere with
  | true => exact Work.leads_ask_bind resumes fun e _ => failed e
  | false => exact Work.leads_pure (gone (asks_eq_ok_iff.mp asked))

/-- What resuming leads to: the journal is dropped, or the promotion is completed. -/
theorem leads_resume {after : Outcomes Error Bool} (failed : ∀ e, after.failed e disk)
    (dropped : definitionRemains promotion disk = .ok false →
      (store.clearJournal >>= fun _ => pure false).Leads disk after)
    (completed : ∀ record, definitionRemains promotion disk = .ok true →
      (do
        store.applyPromotion promotion
        store.clearJournal
        Work.tell record
        return true : Work Error Bool).Leads disk after) :
    (store.resume promotion).Leads disk after := by
  refine Work.leads_ask_bind (fun remains asked => ?_) fun e _ => failed e
  cases remains with
  | true => exact completed _ asked
  | false => exact Work.leads_tell_bind (dropped asked)

/-- The promotion of a temporary agent that is nowhere counted yet. -/
def somePromotion (name target description : String) : Promotion :=
  ⟨⟨0, ["temp", name ++ ".md"]⟩, ⟨0, ["agents", target ++ ".md"]⟩, .text target,
    ⟨target, target ++ ".md", description, someDay.text, 0⟩⟩

theorem isTold_somePromotion {name target description : String}
    (source : (somePromotion name target description).source.IsSpelled)
    (defined : (somePromotion name target description).target.IsSpelled)
    (file : target ++ ".md" ≠ "") : (somePromotion name target description).IsTold where
  named := rfl
  entry := ⟨rfl, file⟩
  countable := Entry.isCountable_of_unused rfl
  source := source
  target := defined

end Store

end AgentFlow
