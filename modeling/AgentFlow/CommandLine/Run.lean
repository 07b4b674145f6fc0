import AgentFlow.CommandLine.Arguments
import AgentFlow.CommandLine.Settings
import AgentFlow.CommandLine.Workflows

/-!
# The program

What the program does with its arguments: it loads the configuration, sets up logging,
and carries out the command.
-/

namespace AgentFlow.CommandLine

open AgentFlow.Console

/-- The exit code of a program that is used in a wrong way. -/
def misuseCode : Nat := 2

/-- The directory that relative paths start from. -/
def currentDirectory (disk : Disk) : Path := ⟨1, disk.current⟩

/-- Load the configuration.  A configuration file that cannot be read is told to the user. -/
def loadConfig (context : Context) (options : ProgramOptions) : Action Config :=
  let load (disk : Disk) : Except Error Config :=
    Config.load disk context.homes (currentDirectory disk) options.home
  (Action.ask load).handling (·.kind? = some .config) fun e => Action.refuse (context.wording e)

/-- The level of logging: that of the option, unless it is empty, or that of the
configuration. -/
def logLevel (options : ProgramOptions) (config : Config) : Except Error Nat :=
  let given : Value := ((options.logLevel.filter (!·.isEmpty)).map .text).getD config.logging.level
  (Log.levelOfValue given).mapError fun fault => .unexpected (.value fault)

/-- Set up logging. -/
def setUpLogging (options : ProgramOptions) (config : Config) : Action Unit := do
  let level ← Action.ofExcept (logLevel options config)
  let json := options.jsonLogs || config.logging.json.isGiven
  modify fun terminal => { terminal with setup := terminal.setup.configure level json }

/-- Carry out a command. -/
def runCommand (context : Context) (config : Config) : Command → Action Unit
  | .listAgents => listAgents context config
  | .resolveAgent name => resolveAgent context config name
  | .showAgent name => showAgent context config name
  | .promoteAgent name newName => promoteAgent context config name newName
  | .deleteAgent name => deleteAgent context config name
  | .checkWorkflow path => checkWorkflow context config (Path.ofText path)
  | .expandWorkflow path => expandWorkflow context config (Path.ofText path)
  | .showConfig => showConfig context config
  | .showVersion => Action.say versionText

/-- Do what is asked. -/
def runRequest (context : Context) : Request → Action Unit
  | .misuse => Action.exit misuseCode
  | .help => return ()
  | .call options call => do
    let config ← loadConfig context options
    setUpLogging options config
    match call with
    | .misuse => Action.exit misuseCode
    | .help => return ()
    | .command command => runCommand context config command

/-- How the program ended: the exit code, and the error if one was not handled. -/
structure Conclusion where
  exit : Nat
  error : Option Error

/-- The outcome of an ending; reaching the end is success. -/
def Conclusion.ofEnding : Except Ending Unit → Conclusion
  | .ok _ => ⟨0, none⟩
  | .error (.exit code) => ⟨code, none⟩
  | .error (.failed e) => ⟨Action.failureCode, some e⟩
  | .error .stopped => ⟨Action.failureCode, none⟩

/-- Run the program on its arguments. -/
def run (context : Context) (machine : Machine) (arguments : List String) : Conclusion × Terminal :=
  let (ending, terminal) :=
    (runRequest context (readRequest arguments)) ⟨machine, [], Log.Setup.none⟩
  (Conclusion.ofEnding ending, terminal)

end AgentFlow.CommandLine
