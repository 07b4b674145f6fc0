import AgentFlow.Agent.Store
import AgentFlow.Json.Reader

/-!
# Promotion

Promotion makes a temporary agent a defined one: it moves the definition and registers
the agent.  The intent is written to a journal first, and the journal goes away when
both are done.  A promotion that was stopped is completed from its journal; both of its
steps can be done again.
-/

namespace AgentFlow

open AgentFlow.Number AgentFlow.Text

/-- A promotion that is under way: the definition, where it goes, and what is to be
registered.  The name is that of the entry; in a journal that another program wrote it
may be any value. -/
structure Promotion where
  source : Path
  target : Path
  name : Value
  entry : Entry

namespace Promotion

/-- The journal of a promotion. -/
def toDocument (promotion : Promotion) : Json.Document :=
  .object [("name", .text promotion.entry.agentName), ("source", .text promotion.source.text),
    ("target", .text promotion.target.text), ("entry", promotion.entry.toDocument)]

/-- A member of a journal; the journal must be an object that has it. -/
def member (journal : Value) (key : String) : Except ValueFault Value :=
  match journal with
  | .table entries =>
    match Value.lookup? key entries with
    | some value => .ok value
    | none => .error (.missingField key)
  | value => .error (.wrongKind .members value.kind)

/-- The path that a value spells. -/
def pathOf (value : Value) : Except ValueFault Path :=
  match value with
  | .text s => .ok (Path.ofText s)
  | value => .error (.wrongKind .path value.kind)

/-- The promotion of a journal. -/
def ofValue (journal : Value) : Except ValueFault Promotion := do
  let source ← pathOf (← member journal "source")
  let target ← pathOf (← member journal "target")
  let name ← member journal "name"
  let entry ← Entry.ofValue name.displayText (← member journal "entry")
  .ok ⟨source, target, name, entry⟩

/-- The error of a journal that is not read as JSON.  Depth is not the journal's own error. -/
def jsonError (journal : Path) (fault : Json.Fault) : Error :=
  match fault with
  | .tooDeep => .unexpected (.ofJson fault)
  | fault => .registry (.unreadableJournal (.ofJson fault)) journal

/-- The error of a fault in a journal.  An entry that is no object and a count that is no
number are not the journal's own errors. -/
def journalError (journal : Path) (fault : ValueFault) : Error :=
  match fault with
  | .infiniteCount => .unexpected (.value fault)
  | .wrongKind .entry _ => .unexpected (.value fault)
  | fault => .registry (.unreadableJournal (.value fault)) journal

/-- Read a journal. -/
def read (disk : Disk) (journal : Path) : Except Error Promotion := do
  let unreadable (fault : Fault) : Error := .registry (.unreadableJournal fault) journal
  let text ← (disk.readText journal).mapError unreadable
  let value ← (Json.read text).mapError (jsonError journal)
  (ofValue value).mapError (journalError journal)

/-- The key that a value is registered under. -/
def keyOf (name : Value) : Except ValueFault String :=
  match name with
  | .text s => .ok s
  | .null => .ok "null"
  | .bool true => .ok "true"
  | .bool false => .ok "false"
  | .int n => .ok (integerText n)
  | .float .nan => .ok "NaN"
  | .float (.infinite negative) => .ok (if negative then "-Infinity" else "Infinity")
  | .float x => .ok x.text
  | value => .error (.wrongKind .key value.kind)

/-- The registry with the entry of a promotion.  Only a text can be a name that is
registered already. -/
def register (promotion : Promotion) (registry : Registry) : Except ValueFault Registry := do
  let key ← keyOf promotion.name
  match promotion.name with
  | .text name => .ok (registry.insert name promotion.entry)
  | _ => .ok (registry ++ [(key, promotion.entry)])

end Promotion

namespace Store

/-- Write the journal of a promotion. -/
def writeJournal (store : Store) (promotion : Promotion) : Work Error Unit := do
  let journal ← Work.ofExcept store.journalPath
  (Work.atomicWrite journal promotion.toDocument.fileText).mapFault
    (wrapAccess fun fault => .registry (.unwritableJournal fault) journal)

/-- Remove the journal, which may be gone. -/
def clearJournal (store : Store) : Work Error Unit := do
  let journal ← Work.ofExcept store.journalPath
  (Work.removeIfThere journal).mapFault .unexpected

/-- Move the definition, if it is not moved yet, and register the agent. -/
def applyPromotion (store : Store) (promotion : Promotion) : Work Error Unit := do
  if ← Work.ask fun disk => asks (disk.pathExists promotion.source) then
    (Work.moveFile promotion.source promotion.target).mapFault
      (wrapAccess fun fault => .registry (.unmoved promotion.source fault) promotion.target)
  let registry ← Work.ask store.load
  let registered ← Work.ofExcept
    ((promotion.register registry).mapError fun fault => .unexpected (.value fault))
  store.save registered

/-- Promote a temporary agent, under a new name if one is given.  Tells whether it was
done: not if there is no such agent, and not if the name is taken. -/
def promote (store : Store) (today : Date) (name : String) (newName : Option String) :
    Work Error Bool := do
  let target := (newName.filter (!·.isEmpty)).getD name
  if !isIdentifier target then Work.fail (.form (.agentName target))
  let source := store.temporaryPath name
  if !(← Work.ask (store.hasTemporary · name)) then
    Work.tell ⟨.warning, logger, "Temp agent not found: " ++ name⟩
    return false
  let registry ← Work.ask store.load
  let defined := store.definedPath target
  if (← Work.ask fun disk => asks (disk.pathExists defined)) || registry.contains target then
    Work.tell ⟨.warning, logger,
      "Defined agent '" ++ target ++ "' already exists (" ++ defined.text ++
        "); not promoting '" ++ name ++ "'"⟩
    return false
  let text ← Work.ask fun disk => (disk.readText source).mapError
    (wrapAccess fun fault => .registry (.unreadableAgent fault) source)
  let description ← Work.ofExcept
    ((Definition.describe text).mapError fun fault => .unexpected (.value fault))
  let entry : Entry := {
    agentName := target
    file := defined.name
    description := description
    created := today.text
    usageCount := 0 }
  let promotion : Promotion := ⟨source, defined, .text target, entry⟩
  store.writeJournal promotion
  store.applyPromotion promotion
  store.clearJournal
  Work.tell ⟨.info, logger,
    "Promoted temp agent '" ++ name ++ "' to defined agent '" ++ target ++ "'"⟩
  return true

/-- Whether the definition of a promotion is where it came from or where it goes. -/
def definitionRemains (promotion : Promotion) (disk : Disk) : Except Error Bool := do
  if ← asks (disk.pathExists promotion.source) then return true
  else asks (disk.pathExists promotion.target)

/-- Complete the promotion of the journal, if there is one.  Tells whether one was
completed; a journal whose definition is gone is dropped. -/
def recover (store : Store) : Work Error Bool := do
  let journal ← Work.ofExcept store.journalPath
  if !(← Work.ask fun disk => asks (disk.pathExists journal)) then return false
  let promotion ← Work.ask (Promotion.read · journal)
  let name := promotion.name.displayText
  if !(← Work.ask (definitionRemains promotion)) then
    Work.tell ⟨.warning, logger,
      "Dropping promotion journal for '" ++ name ++ "': definition file is gone"⟩
    store.clearJournal
    return false
  store.applyPromotion promotion
  store.clearJournal
  Work.tell ⟨.info, logger, "Recovered interrupted promotion of '" ++ name ++ "'"⟩
  return true

end Store

end AgentFlow
