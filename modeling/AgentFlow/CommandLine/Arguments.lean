/-!
# Arguments

Reading the arguments of the program: options in front of the name of a command, then
the name, then the options and arguments of the command.  An argument that starts with a
dash is an option, unless it stands after two dashes.
-/

namespace AgentFlow.CommandLine

/-- An option, and whether a value belongs to it. -/
structure OptionForm where
  name : String
  takesValue : Bool

/-- The option that asks for help. -/
def helpForm : OptionForm := ⟨"--help", false⟩

/-- What is given: the options with their values, and the other arguments. -/
structure Given where
  options : List (String × String)
  arguments : List String
  deriving DecidableEq, Repr

namespace Given

/-- The value of an option; of several the last one counts. -/
def value? (given : Given) (name : String) : Option String :=
  given.options.reverse.lookup name

/-- Whether an option is given. -/
def has (given : Given) (name : String) : Bool := (given.value? name).isSome

end Given

/-- Whether an argument is an option. -/
def isOption (argument : String) : Bool :=
  match argument.toList with
  | '-' :: _ :: _ => true
  | _ => false

/-- The name of an option, and the value written behind an equals sign. -/
def splitOption (argument : String) : String × Option String :=
  let cs := argument.toList
  let name := String.ofList (cs.takeWhile (· != '='))
  match cs.dropWhile (· != '=') with
  | [] => (name, none)
  | _ :: value => (name, some (String.ofList value))

/-- Put an option in front of what is given. -/
def withOption (name value : String) (given : Given) : Given :=
  { given with options := (name, value) :: given.options }

/-- Read arguments.  With `mixed`, options may also follow other arguments; without it
the first other argument ends the options.  There is nothing to be read from an unknown
option, from one that lacks its value, and from one that has a value and takes none. -/
def readGiven? (forms : List OptionForm) (mixed : Bool) : List String → Option Given
  | [] => some ⟨[], []⟩
  | argument :: rest =>
    if argument = "--" then some ⟨[], rest⟩
    else if isOption argument then
      let (name, written) := splitOption argument
      match forms.find? (·.name = name) with
      | none => none
      | some form =>
        if form.takesValue then
          match written, rest with
          | some value, rest => (readGiven? forms mixed rest).map (withOption name value)
          | none, value :: rest => (readGiven? forms mixed rest).map (withOption name value)
          | none, [] => none
        else
          match written with
          | some _ => none
          | none => (readGiven? forms mixed rest).map (withOption name "")
    else if mixed then
      (readGiven? forms mixed rest).map fun given =>
        { given with arguments := argument :: given.arguments }
    else some ⟨[], argument :: rest⟩

/-- A command. -/
inductive Command where
  | listAgents
  | resolveAgent (name : String)
  | showAgent (name : String)
  | promoteAgent (name : String) (newName : Option String)
  | deleteAgent (name : String)
  | checkWorkflow (path : String)
  | expandWorkflow (path : String)
  | showConfig
  | showVersion
  deriving DecidableEq, Repr

/-- What is asked of the program once its own options are read. -/
inductive Call where
  | misuse
  | help
  | command (command : Command)
  deriving DecidableEq, Repr

/-- The options of the program. -/
structure ProgramOptions where
  home : Option String
  logLevel : Option String
  jsonLogs : Bool
  deriving DecidableEq, Repr

/-- What is asked of the program.  A misuse that is found before the options are in
effect is told apart from one that is found after. -/
inductive Request where
  | misuse
  | help
  | call (options : ProgramOptions) (call : Call)
  deriving DecidableEq, Repr

/-- A command with its options and a number of arguments. -/
def readCommand (forms : List OptionForm) (count : Nat) (build : Given → Option Command)
    (arguments : List String) : Call :=
  match readGiven? (helpForm :: forms) true arguments with
  | none => .misuse
  | some given =>
    if given.has helpForm.name then .help
    else if given.arguments.length = count then
      match build given with
      | some command => .command command
      | none => .misuse
    else .misuse

/-- A command without arguments. -/
def readPlain (command : Command) (arguments : List String) : Call :=
  readCommand [] 0 (fun _ => some command) arguments

/-- A command with one argument. -/
def readUnary (build : String → Command) (arguments : List String) : Call :=
  readCommand [] 1 (fun given => given.arguments.head?.map build) arguments

/-- Whether a text can be a path: no character of it is of code zero. -/
def isPathText (s : String) : Bool := !s.toList.contains '\x00'

/-- A command with one argument, which must be able to be a path. -/
def readOnPath (build : String → Command) (arguments : List String) : Call :=
  readCommand [] 1 (fun given => (given.arguments.head?.filter isPathText).map build) arguments

/-- The option that gives a promoted agent another name. -/
def newNameForm : OptionForm := ⟨"--as", true⟩

/-- A promotion: a name, and another name if one is given. -/
def readPromotion (arguments : List String) : Call :=
  readCommand [newNameForm] 1
    (fun given => given.arguments.head?.map (.promoteAgent · (given.value? newNameForm.name)))
    arguments

/-- A command of a group: its name, and its own arguments. -/
def readGroup (member? : String → Option (List String → Call)) (arguments : List String) : Call :=
  match readGiven? [helpForm] false arguments with
  | none => .misuse
  | some given =>
    if given.has helpForm.name then .help
    else
      match given.arguments with
      | [] => .misuse
      | name :: rest =>
        match member? name with
        | some read => read rest
        | none => .misuse

/-- The commands for agents. -/
def agentCommand? (name : String) : Option (List String → Call) :=
  [("list", readPlain .listAgents), ("resolve", readUnary .resolveAgent),
    ("show", readUnary .showAgent), ("promote", readPromotion),
    ("delete", readUnary .deleteAgent)].lookup name

/-- The commands for workflows. -/
def workflowCommand? (name : String) : Option (List String → Call) :=
  [("check", readOnPath .checkWorkflow), ("expand", readOnPath .expandWorkflow)].lookup name

/-- The commands and groups of the program. -/
def programCommand? (name : String) : Option (List String → Call) :=
  [("agent", readGroup agentCommand?), ("workflow", readGroup workflowCommand?),
    ("config", readPlain .showConfig), ("version", readPlain .showVersion)].lookup name

/-- The options of the program. -/
def programForms : List OptionForm :=
  [helpForm, ⟨"--home", true⟩, ⟨"--log-level", true⟩, ⟨"--json-logs", false⟩]

/-- Read the arguments of the program.  The home directory must be able to be a path. -/
def readRequest (arguments : List String) : Request :=
  match readGiven? programForms false arguments with
  | none => .misuse
  | some given =>
    if given.has helpForm.name then .help
    else if (given.value? "--home").any (!isPathText ·) then .misuse
    else
      match given.arguments with
      | [] => .misuse
      | name :: rest =>
        match programCommand? name with
        | none => .misuse
        | some read =>
          .call ⟨given.value? "--home", given.value? "--log-level", given.has "--json-logs"⟩
            (read rest)

end AgentFlow.CommandLine
