import AgentFlow.Proofs.CommandLine.Action
import AgentFlow.Proofs.Config.Refusal
import AgentFlow.Proofs.Console.Markup

/-!
# Programs without a configuration

Every command starts with a configuration.  If it is refused for an error of its own, the program
tells the user and ends with the code of failure.  Any other fault is not handled: the program
ends with the same code, but prints nothing.
-/

namespace AgentFlow.CommandLine

open AgentFlow.Console

variable {context : Context} {machine : Machine} {arguments : List String}
  {options : ProgramOptions} {call : Call} {config : Config} {error : Error}

/-! ## Messages -/

/-- A message can always be printed. -/
theorem refuse_eq {α : Type} (message : String) (before : Terminal) :
    ∃ item, Console.text (styled "red" (escape message)) = .ok item ∧
      (Action.refuse message : Action α) before = (.error (.exit Action.failureCode),
        { before with printed := before.printed ++ [item] }) := by
  obtain ⟨shown, shows⟩ := render_styled_escape (@isStyle_colour "red" (by decide)) message
  have isItem : Console.text (styled "red" (escape message)) = .ok (.text shown) := by
    rw [Console.text, shows]
    rfl
  have printed : Action.say (styled "red" (escape message)) before =
      (.ok (), { before with printed := before.printed ++ [.text shown] }) :=
    Action.print_eq_ok_iff.mpr ⟨_, isItem, rfl⟩
  exact ⟨_, isItem, bind_of_ok printed⟩

/-- The program prints the message of an error and ends with the code of failure. -/
def Reports (context : Context) (machine : Machine) (arguments : List String) (error : Error) :
    Prop :=
  ∃ item, Console.text (styled "red" (escape (context.wording error))) = .ok item ∧
    run context machine arguments =
      (⟨Action.failureCode, none⟩, { Terminal.start machine with printed := [item] })

/-- The program ends in an error that it does not handle, and prints nothing. -/
def Crashes (context : Context) (machine : Machine) (arguments : List String) (error : Error) :
    Prop :=
  run context machine arguments = (⟨Action.failureCode, some error⟩, .start machine)

theorem run_eq {ending : Except Ending Unit} {after : Terminal}
    (ran : runRequest context (readRequest arguments) (.start machine) = (ending, after)) :
    run context machine arguments = (.ofEnding ending, after) := by
  change (Conclusion.ofEnding (runRequest context (readRequest arguments) (.start machine)).1,
    (runRequest context (readRequest arguments) (.start machine)).2) = _
  rw [ran]

/-! ## Configurations -/

theorem ask_of_error {α : Type} {question : Disk → Except Error α} {before : Terminal}
    (failed : question before.machine.disk = .error error) :
    Action.ask question before = (.error (.failed error), before) := by
  unfold Action.ask
  rw [get_bind, failed]
  rfl

theorem loadConfig_of_error {before : Terminal}
    (failed : Config.load before.machine.disk context.homes
      (currentDirectory before.machine.disk) options.home = .error error) :
    loadConfig context options before =
      if error.kind? = some .config then Action.refuse (context.wording error) before
      else (.error (.failed error), before) := by
  have asked := @ask_of_error error Config (fun disk =>
    Config.load disk context.homes (currentDirectory disk) options.home) before failed
  unfold loadConfig Action.handling
  simp only [asked, decide_eq_true_eq]

theorem run_of_load_error (called : readRequest arguments = .call options call)
    (failed : Config.load machine.disk context.homes (currentDirectory machine.disk)
      options.home = .error error) :
    (error.kind? = some .config → Reports context machine arguments error) ∧
      (error.kind? ≠ some .config → Crashes context machine arguments error) := by
  have loading := @loadConfig_of_error context options error (.start machine) failed
  constructor
  · intro isConfig
    obtain ⟨item, isItem, refused⟩ :=
      @refuse_eq Config (context.wording error) (.start machine)
    rw [if_pos isConfig, refused] at loading
    refine ⟨item, isItem, @run_eq _ _ _ (.error (.exit Action.failureCode)) _ ?_⟩
    rw [called]
    exact bind_of_error loading
  · intro notConfig
    rw [if_neg notConfig] at loading
    refine @run_eq _ _ _ (.error (.failed error)) _ ?_
    rw [called]
    exact bind_of_error loading

/-- A level of logging that is no text is found only after the configuration is loaded. -/
theorem run_of_level_error (called : readRequest arguments = .call options call)
    (loads : Config.load machine.disk context.homes (currentDirectory machine.disk)
      options.home = .ok config) (failed : logLevel options config = .error error) :
    Crashes context machine arguments error := by
  have loading : loadConfig context options (.start machine) = (.ok config, .start machine) := by
    unfold loadConfig
    rw [Action.handling_eq_ok_iff fun _ => Action.givesUp_refuse _, Action.ask_eq_ok_iff]
    exact ⟨loads, rfl⟩
  have setting : setUpLogging options config (.start machine) =
      (.error (.failed error), .start machine) := by
    refine bind_of_error ?_
    rw [failed]
    rfl
  refine @run_eq _ _ _ (.error (.failed error)) _ ?_
  rw [called]
  exact (bind_of_ok loading).trans (bind_of_error setting)

/-- Loading a configuration fails exactly for what is refused, be it from two files or from one,
and then with an error of the configuration or with a fault that nobody expects.  The program
tells the user of the former and ends in the latter, and it ends in the fault of a level that
cannot be used. -/
theorem refused_configurations {disk : Disk} {homes : Homes} {project shared own : Path}
    {home : Option String} (globalPath : Config.globalFile homes home = .ok shared)
    (projectPath : Config.projectFile disk project = .ok own)
    (sharedAnswers : disk.Answers shared) (ownAnswers : disk.Answers own) :
    (∀ error, Config.load disk homes project home = .error error ↔
        Config.LoadRefused disk shared own error) ∧
      (∀ error, Config.LoadRefused disk shared own error → Config.IsRefusal [shared, own] error) ∧
      (∀ path, disk.Answers path → ∀ error, Config.ofFile disk path = .error error ↔
        Config.FileRefused disk path error) ∧
      (∀ path error, Config.FileRefused disk path error → Config.IsRefusal [path] error) ∧
      ∀ (context : Context) (machine : Machine) (arguments : List String)
        (options : ProgramOptions) (call : Call) (error : Error),
        readRequest arguments = .call options call →
          (Config.load machine.disk context.homes (currentDirectory machine.disk) options.home =
              .error error →
            (error.kind? = some .config → Reports context machine arguments error) ∧
            (error.kind? ≠ some .config → Crashes context machine arguments error)) ∧
          ∀ config, Config.load machine.disk context.homes (currentDirectory machine.disk)
              options.home = .ok config →
            logLevel options config = .error error → Crashes context machine arguments error := by
  refine ⟨?_, ?_, ?_, ?_, ?_⟩
  · intro error
    exact Config.load_eq_error_iff globalPath projectPath sharedAnswers ownAnswers
  · intro error refused
    exact refused.isRefusal
  · intro path answers error
    exact Config.ofFile_eq_error_iff answers
  · intro path error refused
    exact refused.isRefusal
  · intro context machine arguments options call error called
    refine ⟨run_of_load_error called, ?_⟩
    intro config loads failed
    exact run_of_level_error called loads failed

theorem kind?_unexpected_ne (fault : Fault) : (Error.unexpected fault).kind? ≠ some .config :=
  nofun

/-- A disk with one file, in the project that is the current directory. -/
def projectDisk (content : Content) : Disk where
  nodes := [(["p"], .directory), (["p", "orchestra.toml"], .file content)]
  current := ["p"]

theorem refused_configurations_number :
    Config.load (projectDisk (.text "paths = 5")) plainContext.homes ⟨1, ["p"]⟩ none =
        .error (.unexpected (.value (.wrongKind .fields .int))) ∧
      Crashes plainContext (.ofDisk (projectDisk (.text "paths = 5"))) ["version"]
        (.unexpected (.value (.wrongKind .fields .int))) := by
  obtain ⟨loads, _, _, _, ends⟩ := @refused_configurations (projectDisk (.text "paths = 5"))
    plainContext.homes ⟨1, ["p"]⟩ ⟨1, ["home", ".orchestra", "config.toml"]⟩
    ⟨1, ["p", "orchestra.toml"]⟩ none rfl rfl ⟨false, rfl⟩ ⟨true, rfl⟩
  have owns : Config.Holds (projectDisk (.text "paths = 5")) ⟨1, ["p", "orchestra.toml"]⟩
      [(.text "paths", .int 5)] :=
    .read rfl rfl (by cbv)
  have failed := (loads _).mpr (.section_ (.absent rfl) owns rfl)
  obtain ⟨loadFails, _⟩ := ends plainContext (.ofDisk (projectDisk (.text "paths = 5")))
    ["version"] _ _ _ rfl
  exact ⟨failed, (loadFails failed).2 (kind?_unexpected_ne _)⟩

/-- Octets that are no text and a number in the place of a section are no errors of the
configuration, and the program tells nothing of them. -/
theorem not_only_configuration_errors :
    Config.load (projectDisk (.binary [0xff])) plainContext.homes ⟨1, ["p"]⟩ none =
        .error (.unexpected (.utf8 ⟨0, [0xff], .invalidStart⟩)) ∧
      Config.ofFile (projectDisk (.text "paths = 5")) ⟨1, ["p", "orchestra.toml"]⟩ =
        .error (.unexpected (.value (.wrongKind .fields .int))) ∧
      (run plainContext (.ofDisk (projectDisk (.binary [0xff]))) ["version"]).1.error =
        some (.unexpected (.utf8 ⟨0, [0xff], .invalidStart⟩)) ∧
      (run plainContext (.ofDisk (projectDisk (.binary [0xff]))) ["version"]).2.printed = [] ∧
      ∀ fault, (Error.unexpected fault).kind? ≠ some .config := by
  have holds : Config.Holds (projectDisk (.text "paths = 5")) ⟨1, ["p", "orchestra.toml"]⟩
      [(.text "paths", .int 5)] :=
    .read rfl rfl (by cbv)
  exact ⟨rfl, (Config.ofFile_eq_error_iff ⟨true, rfl⟩).mpr (.section_ holds rfl), rfl, rfl,
    kind?_unexpected_ne⟩

end AgentFlow.CommandLine
