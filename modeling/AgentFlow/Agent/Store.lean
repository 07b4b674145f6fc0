import AgentFlow.Agent.Definition
import AgentFlow.Agent.Descriptor
import AgentFlow.Agent.Registry
import AgentFlow.Files.Work
import AgentFlow.Text.Identifier

/-!
# The store of agents

Two directories of definitions, those of the defined agents and those of the temporary
ones, and the registry of the defined agents.  This module holds what concerns one of
the directories or the registry alone; promotion, which moves an agent from one
directory to the other, is a module of its own.
-/

namespace AgentFlow

open AgentFlow.Number AgentFlow.Text

/-- Where agents are kept. -/
structure Store where
  agentsDir : Path
  temporaryDir : Path
  registryPath : Path
  deriving DecidableEq, Repr

namespace Store

/-- The logger of the store. -/
def logger : String := Log.loggerFor "agents.registry"

/-- The registry of a store that is told none. -/
def defaultRegistryPath (agentsDir : Path) : Path := agentsDir.child "registry.json"

/-- The path of the definition of a defined agent. -/
def definedPath (store : Store) (name : String) : Path := definitionPath store.agentsDir name

/-- The path of the definition of a temporary agent. -/
def temporaryPath (store : Store) (name : String) : Path :=
  definitionPath store.temporaryDir name

/-- The path of the journal, which lies beside the registry. -/
def journalPath (store : Store) : Except Error Path :=
  match store.registryPath.appendToName? ".journal" with
  | some path => .ok path
  | none => .error (.unexpected (.unnamedPath store.registryPath))

/-- A question about a path.  A name that is too long is an error. -/
def asks (question : Except FileFault Bool) : Except Error Bool :=
  question.mapError fun fault => .unexpected (.file fault)

/-- The table of defined agents. -/
def load (store : Store) (disk : Disk) : Except Error Registry :=
  Registry.read disk store.registryPath

/-- The entry of a defined agent. -/
def get (store : Store) (disk : Disk) (name : String) : Except Error (Option Entry) :=
  return (← store.load disk).get? name

/-- The names of the defined agents, sorted. -/
def listDefined (store : Store) (disk : Disk) : Except Error (List String) :=
  return (← store.load disk).sortedNames

/-- Whether a name ends as the names of definition files do. -/
def isDefinitionName (name : String) : Bool :=
  definitionSuffix.toList.isSuffixOf name.toList

/-- The names, among those of a directory, at which a file is found. -/
def filesAmong (disk : Disk) (directory : Path) : List String → Except Error (List String)
  | [] => .ok []
  | name :: names => do
    let found ← asks (disk.isFile (directory.child name))
    let files ← filesAmong disk directory names
    return if found then name :: files else files

/-- The names of the temporary agents, sorted: those of the definition files in their
directory, without the suffix. -/
def listTemporary (store : Store) (disk : Disk) : Except Error (List String) := do
  if ← asks (disk.isDirectory store.temporaryDir) then
    match disk.locate store.temporaryDir with
    | .ok location =>
      let names := (disk.namesIn location).filter isDefinitionName
      let files ← filesAmong disk store.temporaryDir names
      return (files.map Path.stemOf).mergeSort (· ≤ ·)
    | .error _ => .ok []
  else .ok []

/-- Whether a name is that of a temporary agent. -/
def hasTemporary (store : Store) (disk : Disk) (name : String) : Except Error Bool :=
  if isIdentifier name then asks (disk.isFile (store.temporaryPath name)) else .ok false

/-- A fault of an access to files becomes an error of the registry, any other is
unexpected. -/
def wrapAccess (wrap : Fault → Error) : Fault → Error
  | .file fault => wrap (.file fault)
  | fault => .unexpected fault

/-- Write the registry file. -/
def writeRegistry (store : Store) (document : Json.Document) : Work Error Unit := do
  let text ← Work.ofExcept (document.fileText?.mapError fun fault => .unexpected (.integer fault))
  (Work.atomicWrite store.registryPath text).mapFault
    (wrapAccess fun fault => .registry (.unwritable fault) store.registryPath)

/-- Keep a table as the table of defined agents. -/
def save (store : Store) (registry : Registry) : Work Error Unit :=
  store.writeRegistry registry.toDocument

/-- Remove a temporary agent; tells whether there was one. -/
def deleteTemporary (store : Store) (name : String) : Work Error Bool := do
  if ← Work.ask (store.hasTemporary · name) then
    (Work.perform (.remove (store.temporaryPath name))).mapFault .unexpected
    Work.tell ⟨.info, logger, "Deleted temp agent '" ++ name ++ "'"⟩
    return true
  else return false

/-- Count one more use of a defined agent.  A name that is not registered is ignored. -/
def incrementUsage (store : Store) (name : String) : Work Error Unit := do
  let registry ← Work.ask store.load
  match registry.get? name with
  | none =>
    Work.tell ⟨.debug, logger, "Not incrementing usage for unregistered agent '" ++ name ++ "'"⟩
  | some entry =>
    let count := entry.usageCount + 1
    store.save (registry.insert name { entry with usageCount := count })
    Work.tell ⟨.debug, logger, "Usage count for '" ++ name ++ "' is now " ++ integerText count⟩

end Store

end AgentFlow
