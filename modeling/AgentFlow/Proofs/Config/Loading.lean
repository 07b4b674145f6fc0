import AgentFlow.Proofs.Config.Layers
import Mathlib

/-!
# Configurations that are loaded

A configuration is loaded from two files, either of which may be absent.  A home directory that
is given wins over the one that is set, with its leading `~` replaced, and it is where the first
of the files is looked for.  Relative paths of the configuration then lie in it.
-/

namespace AgentFlow

open AgentFlow.Json Value

namespace Config

variable {disk : Disk} {homes : Homes} {project directory path : Path} {home : Option String}
  {shared own document : Entries}

/-! ## Files -/

/-- A file holds a document; one that is absent holds an empty one. -/
inductive Holds (disk : Disk) (path : Path) : Entries → Prop
  | absent (absent : disk.pathExists path = .ok false) : Holds disk path []
  | read {text : String} {document : Entries} (isThere : disk.pathExists path = .ok true)
      (reads : disk.readExact path = .ok text) (parsed : Toml.read text = .ok document) :
      Holds disk path document

theorem readDocument_eq_ok_iff :
    readDocument disk path = .ok document ↔ Holds disk path document := by
  unfold readDocument
  rw [bind_eq_ok_iff]
  constructor
  · intro ⟨isThere, asked, answered⟩
    have asked := mapError_eq_ok_iff.mp asked
    split at answered
    · rename_i yes
      subst yes
      split at answered
      · cases answered
      · cases answered
      · rename_i text reads
        split at answered
        · rename_i parsed
          cases answered
          exact .read asked reads parsed
        · cases answered
        · cases answered
    · rename_i no
      cases answered
      rw [Bool.not_eq_true] at no
      exact .absent (no ▸ asked)
  · intro holds
    cases holds with
    | absent absent => exact ⟨false, mapError_eq_ok_iff.mpr absent, rfl⟩
    | read isThere reads parsed =>
        refine ⟨true, mapError_eq_ok_iff.mpr isThere, ?_⟩
        rw [if_pos rfl, reads]
        dsimp only
        rw [parsed]

theorem keyed_of_holds (holds : Holds disk path document) : Keyed (.table document) := by
  cases holds with
  | absent _ => exact keyed_empty
  | read _ _ parsed => exact Toml.keyed_of_read parsed

/-- The configuration file in the hidden directory of a project. -/
def hiddenFile (project : Path) : Path := (project.child ".orchestra").child fileName

/-- The configuration file of a project that has none in its hidden directory. -/
def plainFile (project : Path) : Path := project.child "orchestra.toml"

theorem projectFile_eq {isHidden : Bool}
    (hidden : disk.pathExists (hiddenFile project) = .ok isHidden) :
    projectFile disk project =
      .ok (if isHidden = true then hiddenFile project else plainFile project) := by
  unfold projectFile
  change (Store.asks (disk.pathExists (hiddenFile project)) >>= _) = _
  rw [hidden]
  cases isHidden <;> rfl

/-! ## Home directories -/

/-- The home directory that is given is that of the configuration. -/
def homeSetting? (directory : Option Path) (name key : String) : Option Value :=
  if name = "paths" ∧ key = "home" then directory.map fun path => .text path.text else none

/-- What is set for a field: by the home directory that is given, by the file of the project, by
the global file, in this order. -/
def layered (directory : Option Path) (shared own : Entries) (name key : String) : Option Value :=
  (homeSetting? directory name key).or ((setting? own name key).or (setting? shared name key))

theorem withHome_ofSettings (set? : String → String → Option Value) (directory : Path) :
    (ofSettings set?).withHome directory.text =
      ofSettings fun name key => (homeSetting? (some directory) name key).or (set? name key) :=
  rfl

theorem globalFile_eq (expands : homes.expand (.ofText (home.getD defaultHome)) = .ok directory) :
    globalFile homes home = .ok (directory.child fileName) := by
  unfold globalFile expandHome
  rw [expands]
  rfl

theorem parent_globalFile (directory : Path) : (directory.child fileName).parent = directory := by
  rw [Path.child_of_name directory (by decide) (by decide)]
  simp [Path.parent]

/-- The paths of a configuration lie in a directory unless they are absolute. -/
structure LiesIn (config : Config) (homes : Homes) (directory : Path) : Prop where
  home : config.paths.home = .text directory.text
  homePath : config.paths.homePath homes = .ok directory
  agents : ∀ s path, config.paths.agentsDir = .text s → homes.expand (.ofText s) = .ok path →
    config.paths.agentsPath homes =
      .ok (if path.isAbsolute = true then path else directory.join path)
  temporary : ∀ s path, config.paths.temporaryDir = .text s →
    homes.expand (.ofText s) = .ok path →
      config.paths.temporaryPath homes =
        .ok (if path.isAbsolute = true then path else directory.join path)
  registry : ∀ s path, config.paths.registryFile = .text s →
    homes.expand (.ofText s) = .ok path →
      config.paths.registryPath homes =
        .ok (if path.isAbsolute = true then path else directory.join path)

theorem pathOf_text {s : String} (expands : homes.expand (.ofText s) = .ok path) :
    PathSettings.pathOf homes (.text s) = .ok path := by
  unfold PathSettings.pathOf expandHome
  dsimp only
  rw [expands]
  rfl

theorem underHome_text {paths : PathSettings} {s : String}
    (homePath : paths.homePath homes = .ok directory)
    (expands : homes.expand (.ofText s) = .ok path) :
    paths.underHome homes (.text s) =
      .ok (if path.isAbsolute = true then path else directory.join path) := by
  unfold PathSettings.underHome
  rw [pathOf_text expands, homePath]
  change (if path.isAbsolute = true then _ else _) = _
  split <;> rfl

theorem liesIn_of_home {config : Config} {given : String} (rooted : homes.Rooted)
    (expands : homes.expand (.ofText given) = .ok directory)
    (home : config.paths.home = .text directory.text) : config.LiesIn homes directory := by
  have spelled := Homes.isSpelled_expand (Path.isSpelled_ofText given) expands
  have again : homes.expand (.ofText directory.text) = .ok directory := by
    rw [Path.ofText_text spelled]
    exact Homes.expand_expand rooted expands
  have homePath : config.paths.homePath homes = .ok directory := by
    rw [PathSettings.homePath, home, pathOf_text again]
  refine ⟨home, homePath, ?_, ?_, ?_⟩
  · intro s path isText expands
    rw [PathSettings.agentsPath, isText, underHome_text homePath expands]
  · intro s path isText expands
    rw [PathSettings.temporaryPath, isText, underHome_text homePath expands]
  · intro s path isText expands
    rw [PathSettings.registryPath, isText, underHome_text homePath expands]

/-! ## Loading -/

/-- How a configuration comes from the documents of its two files. -/
structure Layers (homes : Homes) (home : Option String) (directory : Path) (shared own : Entries)
    (config : Config) : Prop where
  fields : config = ofSettings (layered (home.map fun _ => directory) shared own)
  known : ∀ others : String → String → Option Value,
    (∀ field ∈ Config.fields, others field.1 field.2 =
      layered (home.map fun _ => directory) shared own field.1 field.2) →
        config = ofSettings others
  liesIn : homes.Rooted → home ≠ none → config.LiesIn homes directory

/-- Two files with documents of tables are loaded as layers: the file in the home directory that is
given or else the default one, and the first file of the project that is there. -/
theorem load_layers {isHidden : Bool}
    (expands : homes.expand (.ofText (home.getD defaultHome)) = .ok directory)
    (hidden : disk.pathExists (hiddenFile project) = .ok isHidden)
    (shares : Holds disk (directory.child fileName) shared)
    (owns : Holds disk (if isHidden = true then hiddenFile project else plainFile project) own)
    (sharedSections : IsSectioned shared) (ownSections : IsSectioned own) :
    ∃ config, load disk homes project home = .ok config ∧
      Layers homes home directory shared own config := by
  have merged := ofDocument_merge (keyed_of_holds owns) sharedSections ownSections
  refine ⟨ofSettings (layered (home.map fun _ => directory) shared own), ?_, rfl, ?_, ?_⟩
  · unfold load ofEntries
    rw [globalFile_eq expands, projectFile_eq hidden]
    change (readDocument disk (directory.child fileName) >>= _) = _
    rw [readDocument_eq_ok_iff.mpr shares]
    change (readDocument disk _ >>= _) = _
    rw [readDocument_eq_ok_iff.mpr owns]
    change ((ofDocument (merge shared own)).mapError _ >>= _) = _
    rw [merged]
    cases home with
    | none => rfl
    | some given =>
        change Except.ok (Config.withHome _ (directory.child fileName).parent.text) = _
        rw [parent_globalFile, withHome_ofSettings]
        rfl
  · intro others same
    exact ofSettings_congr fun field member => (same field member).symm
  · intro rooted given
    obtain ⟨s, isGiven⟩ := Option.ne_none_iff_exists'.mp given
    subst isGiven
    exact liesIn_of_home rooted expands rfl

/-- A disk with a global file in the home directory of a user, and a project with a file. -/
def layeredDisk : Disk where
  nodes := [(["u"], .directory), (["u", "h"], .directory),
    (["u", "h", "config.toml"], .file (.text "[logging]\nlevel = \"DEBUG\"\n[macros]\nx = 1")),
    (["p"], .directory),
    (["p", "orchestra.toml"], .file (.text "[macros]\ndefault_model = \"opus\""))]
  current := []

theorem load_layers_two_files :
    ∃ config, load layeredDisk ⟨"/u", []⟩ ⟨1, ["p"]⟩ (some "~/h") = .ok config ∧
      config.macroModel = .text "opus" ∧ config.logging.level = .text "DEBUG" ∧
      config.LiesIn ⟨"/u", []⟩ ⟨1, ["u", "h"]⟩ := by
  have expands : Homes.expand ⟨"/u", []⟩ (.ofText "~/h") = .ok ⟨1, ["u", "h"]⟩ := rfl
  have noHidden : layeredDisk.pathExists (hiddenFile ⟨1, ["p"]⟩) = .ok false := rfl
  have shares : Holds layeredDisk ⟨1, ["u", "h", "config.toml"]⟩
      [(.text "logging", .table [(.text "level", .text "DEBUG")]),
        (.text "macros", .table [(.text "x", .int 1)])] :=
    .read rfl rfl (by cbv)
  have owns : Holds layeredDisk (plainFile ⟨1, ["p"]⟩)
      [(.text "macros", .table [(.text "default_model", .text "opus")])] :=
    .read rfl rfl (by cbv)
  obtain ⟨config, loads, layers⟩ := @load_layers _ _ _ _ (some "~/h") _ _ _ expands noHidden
    shares owns (by simp [IsSectioned, sections, lookup?])
    (by simp [IsSectioned, sections, lookup?])
  refine ⟨config, loads, ?_, ?_, layers.liesIn ⟨rfl, List.forall_mem_nil _⟩
    (Option.some_ne_none _)⟩
  · rw [layers.fields]
    rfl
  · rw [layers.fields]
    rfl

/-- The home directory that is given has its leading `~` replaced, or else nothing is loaded. -/
theorem home_not_as_given :
    (load ⟨[], []⟩ ⟨"/u", []⟩ ⟨1, ["p"]⟩ (some "~/h")).map (·.paths.home) = .ok (.text "/u/h") ∧
      load ⟨[], []⟩ ⟨"/u", []⟩ ⟨1, ["p"]⟩ (some "~x") =
        .error (.unexpected (.home (.unknown "x"))) :=
  ⟨rfl, rfl⟩

end Config

end AgentFlow
