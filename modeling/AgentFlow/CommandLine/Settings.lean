import AgentFlow.CommandLine.Agents
import AgentFlow.Text.Lower

/-!
# The settings in effect

Showing the configuration, and the version of the program.
-/

namespace AgentFlow.CommandLine

open AgentFlow.Console

/-- The version of the program. -/
def versionText : String := "orchestra 0.1.0"

/-- A value that must be a text. -/
def textOf (use : Value.Use) (value : Value) : Except Error String :=
  match value with
  | .text s => .ok s
  | value => .error (.unexpected (.value (.wrongKind use value.kind)))

/-- The columns of the table of settings. -/
def settingColumns : List String := ["Setting", "Value"]

/-- The names of the built-in agents in one text. -/
def builtinList (config : Config) : Except Error String := do
  let names ← (← config.builtinNames).mapM (textOf .joining)
  .ok (String.intercalate ", " names)

/-- The text of a value in small letters. -/
def lowerDisplay (value : Value) : Except Error String :=
  match value.displayed with
  | .ok text => .ok (String.ofList (Text.lowered text.toList))
  | .error fault => .error (.unexpected (.value fault))

/-- The settings with their values. -/
def settingRows (homes : Homes) (config : Config) : Except Error (List (List String)) := do
  let home ← config.paths.homePath homes
  let agents ← config.paths.agentsPath homes
  let temporary ← config.paths.temporaryPath homes
  let registry ← config.paths.registryPath homes
  let builtins ← builtinList config
  let json ← lowerDisplay config.logging.json
  let model ← textOf .text config.macroModel
  let level ← textOf .text config.logging.level
  .ok [["paths.home", escape home.text], ["paths.agents_dir", escape agents.text],
    ["paths.temp_agents_dir", escape temporary.text], ["paths.registry_file", escape registry.text],
    ["agents.builtins", escape builtins], ["macros.default_model", escape model],
    ["logging.level", escape level], ["logging.json", escape json]]

/-- The global configuration file that the settings speak of. -/
def shownGlobalFile (homes : Homes) (config : Config) : Except Error Path :=
  (config.paths.homePath homes).map (·.child Config.fileName)

/-- Print the settings, and whether there is no global configuration file. -/
def showConfig (context : Context) (config : Config) : Action Unit := do
  let rows ← Action.ofExcept (settingRows context.homes config)
  Action.print (table none settingColumns rows)
  let globalPath ← Action.ofExcept (shownGlobalFile context.homes config)
  if !(← Action.ask fun disk => Store.asks (disk.pathExists globalPath)) then
    Action.say (styled "dim" ("No global config at " ++ escape globalPath.text ++
      "; using defaults."))

end AgentFlow.CommandLine
