import AgentFlow.Agent.Builtin
import AgentFlow.Agent.Store
import AgentFlow.Toml.Reader
import AgentFlow.Workflow.Macro

/-!
# Configuration

What can be set: where agents are kept, which agents are built in, the model of macros
that name none, and logging.  There are three layers, the defaults, the global file and
the project file, and of two layers the later one wins field by field.  The values of
fields are not checked when they are read, but when they are used.
-/

namespace AgentFlow

/-- Where agents are kept.  Paths that are relative lie under the home directory. -/
structure PathSettings where
  home : Value
  agentsDir : Value
  temporaryDir : Value
  registryFile : Value

/-- How much is logged, and in which form. -/
structure LogSettings where
  level : Value
  json : Value

/-- The settings of the program. -/
structure Config where
  paths : PathSettings
  agents : BuiltinSettings
  macroModel : Value
  logging : LogSettings

namespace Config

/-- The home directory of a configuration that sets none. -/
def defaultHome : String := "~/.orchestra"

/-- The name of the configuration file in a home directory. -/
def fileName : String := "config.toml"

/-- A table of entries. -/
abbrev Entries := List (Value × Value)

/-- A section of a document, which must be a table. -/
def section? (name : String) (document : Entries) : Except ValueFault Entries :=
  match Value.lookup? name document with
  | none => .ok []
  | some (.table entries) => .ok entries
  | some value => .error (.wrongKind .fields value.kind)

/-- A field of a section, or the default. -/
def field (entries : Entries) (key : String) (default : Value) : Value :=
  (Value.lookup? key entries).getD default

/-- The configuration that a document sets; what it does not set has its default. -/
def ofDocument (document : Entries) : Except ValueFault Config := do
  let paths ← section? "paths" document
  let agents ← section? "agents" document
  let macros ← section? "macros" document
  let logging ← section? "logging" document
  .ok {
    paths := {
      home := field paths "home" (.text defaultHome)
      agentsDir := field paths "agents_dir" (.text "agents")
      temporaryDir := field paths "temp_agents_dir" (.text "temp-agents")
      registryFile := field paths "registry_file" (.text "agents/registry.json") }
    agents := {
      builtins := field agents "builtins" .null
      extraBuiltins := field agents "extra_builtins" (.list []) }
    macroModel := field macros "default_model" defaultModel
    logging := {
      level := field logging "level" (.text "INFO")
      json := field logging "json" (.bool false) } }

/-- The first layer with the entries of the second put into it. -/
def overlay (base : Entries) : Entries → Entries
  | [] => base
  | (key, value) :: rest => overlay (Value.insertEntry key value base) rest

/-- Two documents, the second in front of the first.  Tables of one name are put
together field by field. -/
def mergeEntry (base : Entries) (key value : Value) : Entries :=
  let merged :=
    match base.find? fun (old, _) => old.sameKey key, value with
    | some (_, .table old), .table new => Value.table (overlay old new)
    | _, value => value
  Value.insertEntry key merged base

/-- `mergeEntry` for every entry of the second document. -/
def merge (base : Entries) : Entries → Entries
  | [] => base
  | (key, value) :: rest => merge (mergeEntry base key value) rest

/-- The document in a file; without a file it is empty. -/
def readDocument (disk : Disk) (path : Path) : Except Error Entries := do
  if ← Store.asks (disk.pathExists path) then
    match disk.readExact path with
    | .error (.file fault) => .error (.config (.file fault) path)
    | .error fault => .error (.unexpected fault)
    | .ok text =>
      match Toml.read text with
      | .ok document => .ok document
      | .error .malformed => .error (.config .toml path)
      | .error fault => .error (.unexpected (.ofToml fault))
  else .ok []

/-- A document as a configuration. -/
def ofEntries (document : Entries) : Except Error Config :=
  (ofDocument document).mapError fun fault => .unexpected (.value fault)

/-- The configuration of one file. -/
def ofFile (disk : Disk) (path : Path) : Except Error Config := do
  ofEntries (← readDocument disk path)

/-- The configuration with another home directory. -/
def withHome (config : Config) (home : String) : Config :=
  { config with paths := { config.paths with home := .text home } }

/-- A path with its leading `~` replaced. -/
def expandHome (homes : Homes) (path : Path) : Except Error Path :=
  (homes.expand path).mapError fun fault => .unexpected (.home fault)

/-- The file of the global layer. -/
def globalFile (homes : Homes) (home : Option String) : Except Error Path := do
  let directory ← expandHome homes (Path.ofText (home.getD defaultHome))
  .ok (directory.child fileName)

/-- The file of the project layer: the one in the hidden directory if it is there. -/
def projectFile (disk : Disk) (project : Path) : Except Error Path := do
  let hidden := (project.child ".orchestra").child fileName
  if ← Store.asks (disk.pathExists hidden) then .ok hidden else .ok (project.child "orchestra.toml")

/-- The configuration of a project.  A home directory that is given wins over any that
is set. -/
def load (disk : Disk) (homes : Homes) (project : Path) (home : Option String) :
    Except Error Config := do
  let globalPath ← globalFile homes home
  let projectPath ← projectFile disk project
  let globalDocument ← readDocument disk globalPath
  let projectDocument ← readDocument disk projectPath
  let config ← ofEntries (merge globalDocument projectDocument)
  match home with
  | none => .ok config
  | some _ => .ok (config.withHome globalPath.parent.text)

end Config

namespace PathSettings

/-- The path that a value spells, with its leading `~` replaced. -/
def pathOf (homes : Homes) (value : Value) : Except Error Path :=
  match value with
  | .text s => Config.expandHome homes (Path.ofText s)
  | value => .error (.unexpected (.value (.wrongKind .path value.kind)))

/-- The home directory. -/
def homePath (paths : PathSettings) (homes : Homes) : Except Error Path :=
  pathOf homes paths.home

/-- A path that lies under the home directory unless it is absolute. -/
def underHome (paths : PathSettings) (homes : Homes) (value : Value) : Except Error Path := do
  let path ← pathOf homes value
  if path.isAbsolute then .ok path else return (← paths.homePath homes).join path

/-- The directory of the defined agents. -/
def agentsPath (paths : PathSettings) (homes : Homes) : Except Error Path :=
  paths.underHome homes paths.agentsDir

/-- The directory of the temporary agents. -/
def temporaryPath (paths : PathSettings) (homes : Homes) : Except Error Path :=
  paths.underHome homes paths.temporaryDir

/-- The registry file. -/
def registryPath (paths : PathSettings) (homes : Homes) : Except Error Path :=
  paths.underHome homes paths.registryFile

end PathSettings

namespace Config

/-- The store of a configuration. -/
def store (config : Config) (homes : Homes) : Except Error Store := do
  let agentsDir ← config.paths.agentsPath homes
  let temporaryDir ← config.paths.temporaryPath homes
  let registryPath ← config.paths.registryPath homes
  .ok ⟨agentsDir, temporaryDir, registryPath⟩

/-- The names of the built-in agents of a configuration. -/
def builtinNames (config : Config) : Except Error (List Value) :=
  config.agents.names.mapError fun fault => .unexpected (.value fault)

end Config

end AgentFlow
