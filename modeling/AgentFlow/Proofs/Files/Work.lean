import AgentFlow.Proofs.Files.Change
import AgentFlow.Proofs.Files.Outcome

/-!
# Directories that are made, files that are written, moved and removed

Each piece of work on files has one specification, for all mishaps.  Making directories
adds some on the way to a path and does nothing else.  A file is written as a whole: it
has its new content, or the disk is as it was but for new directories, and but for the
temporary file if the program was stopped in between.
-/

namespace AgentFlow

namespace Disk

variable {disk later last : Disk}

/-- The locations on the way along the names of a path, its destination included. -/
def OnWay (disk : Disk) (path : Path) (location : Location) : Prop :=
  ∃ passed, passed <+: path.parts ∧ location = passed.foldl step (disk.start path)

/-- A disk with some new directories. -/
structure Furnished (ways : Location → Prop) (disk later : Disk) : Prop where
  current : later.current = disk.current
  node : ∀ location, later.node? location = disk.node? location ∨
    disk.node? location = none ∧ later.node? location = some .directory ∧ ways location

/-- A disk that differs at one location. -/
structure Alters (location : Location) (node : Option Node) (disk later : Disk) : Prop where
  current : later.current = disk.current
  node : ∀ other, later.node? other = if other = location then node else disk.node? other

theorem onWay_destination (disk : Disk) (path : Path) : disk.OnWay path (disk.destination path) :=
  ⟨path.parts, List.prefix_refl _, rfl⟩

theorem OnWay.of_parent {path : Path} {location : Location}
    (onWay : disk.OnWay path.parent location) : disk.OnWay path location := by
  obtain ⟨passed, isPrefix, same⟩ := onWay
  exact ⟨passed, isPrefix.trans (List.dropLast_prefix _), same⟩

theorem onWay_of_current (sameCurrent : later.current = disk.current) {path : Path} :
    later.OnWay path = disk.OnWay path := by
  funext location
  rw [OnWay, OnWay, start_of_current sameCurrent]

section Furnished

variable {ways : Location → Prop}

theorem Furnished.refl (disk : Disk) : Furnished ways disk disk := ⟨rfl, fun _ => Or.inl rfl⟩

theorem Furnished.trans (first : Furnished ways disk later) (second : Furnished ways later last) :
    Furnished ways disk last where
  current := second.current.trans first.current
  node := by
    intro location
    rcases second.node location with same | ⟨free, made, onWay⟩
    · rw [same]
      exact first.node location
    · rcases first.node location with before | ⟨_, taken, _⟩
      · exact Or.inr ⟨before ▸ free, made, onWay⟩
      · rw [taken] at free
        cases free

theorem Furnished.mono {others : Location → Prop} (furnished : Furnished ways disk later)
    (wider : ∀ location, ways location → others location) : Furnished others disk later where
  current := furnished.current
  node := by
    intro location
    refine (furnished.node location).imp_right ?_
    rintro ⟨free, made, onWay⟩
    exact ⟨free, made, wider location onWay⟩

theorem Furnished.keeps (furnished : Furnished ways disk later) : disk.Keeps later where
  current := furnished.current
  directory := by
    intro location found
    rcases furnished.node location with same | ⟨free, _⟩
    · rw [same, found]
    · rw [found] at free
      cases free

/-- New directories are never made where something stands. -/
theorem Furnished.node?_some {location : Location} {node : Node}
    (furnished : Furnished ways disk later) (found : disk.node? location = some node) :
    later.node? location = some node := by
  rcases furnished.node location with same | ⟨free, _⟩
  · rw [same, found]
  · rw [found] at free
    cases free

/-- No file is new. -/
theorem Furnished.file {location : Location} {content : Content}
    (furnished : Furnished ways disk later)
    (file : later.node? location = some (.file content)) :
    disk.node? location = some (.file content) := by
  rcases furnished.node location with same | ⟨_, made, _⟩
  · rw [← same, file]
  · rw [made] at file
    cases file

/-- If the ways are paved already, no directory is new. -/
theorem Furnished.node?_eq (furnished : Furnished ways disk later)
    (paved : ∀ location, ways location → disk.node? location = some .directory)
    (location : Location) : later.node? location = disk.node? location := by
  rcases furnished.node location with same | ⟨free, _, onWay⟩
  · exact same
  · rw [paved location onWay] at free
    cases free

theorem Reaches.directory_of_onWay {path : Path} (reaches : disk.Reaches path)
    (named : path.parts ≠ []) {location : Location} (onWay : disk.OnWay path.parent location) :
    disk.node? location = some .directory := by
  obtain ⟨passed, ⟨rest, shape⟩, rfl⟩ := onWay
  have parts : path.parts = passed ++ (rest ++ [path.parts.getLast named]) := by
    rw [← List.append_assoc, shape]
    exact (List.dropLast_append_getLast named).symm
  exact reaches.paved parts (by simp)

end Furnished

section Alters

variable {location other : Location} {node replaced : Option Node}

theorem alters_put (noDirectory : disk.node? location ≠ some .directory) (node : Node) :
    Alters location (some node) disk (disk.put location node) :=
  ⟨rfl, node?_put (ne_root_of_node? noDirectory) node⟩

theorem alters_erase (noDirectory : disk.node? location ≠ some .directory) :
    Alters location none disk (disk.erase location) :=
  ⟨rfl, node?_erase (ne_root_of_node? noDirectory)⟩

theorem Alters.here (alters : Alters location node disk later) : later.node? location = node := by
  rw [alters.node, if_pos rfl]

theorem Alters.elsewhere (alters : Alters location node disk later) (differs : other ≠ location) :
    later.node? other = disk.node? other := by
  rw [alters.node, if_neg differs]

theorem Alters.keeps (alters : Alters location node disk later)
    (noDirectory : disk.node? location ≠ some .directory) : disk.Keeps later where
  current := alters.current
  directory := by
    intro other found
    rw [alters.elsewhere, found]
    rintro rfl
    exact noDirectory found

/-- Of two alterations at one location the last one counts. -/
theorem Alters.trans (first : Alters location replaced disk later)
    (second : Alters location node later last) : Alters location node disk last where
  current := second.current.trans first.current
  node := by
    intro other
    rw [second.node, first.node]
    split <;> rfl

/-- What stood at a location before may be put back. -/
theorem Alters.furnished {ways : Location → Prop} (alters : Alters location node disk later)
    (same : disk.node? location = node) : Furnished ways disk later where
  current := alters.current
  node := by
    intro other
    refine Or.inl ?_
    rw [alters.node]
    split
    · rename_i here
      rw [here, same]
    · rfl

/-- A file that goes to another place takes the place of what stood there. -/
theorem alters_move {here there : Location} {content : Content}
    (file : disk.node? here = some (.file content)) (differs : here ≠ there)
    (noDirectory : disk.node? there ≠ some .directory) :
    Alters here none disk (disk.erase here) ∧
      Alters there (some (.file content)) (disk.erase here)
        ((disk.erase here).put there (.file content)) ∧
      disk.Keeps ((disk.erase here).put there (.file content)) := by
  have fileHere := noDirectory_of_file file
  have erased := alters_erase fileHere
  have stillNone : (disk.erase here).node? there ≠ some .directory := by
    rw [erased.elsewhere (Ne.symm differs)]
    exact noDirectory
  have put := alters_put stillNone (.file content)
  exact ⟨erased, put, (erased.keeps fileHere).trans (put.keeps stillNone)⟩

end Alters

end Disk

namespace Work

variable {disk : Disk}

/-! ## Directories -/

/-- What making a directory leads to, done or not. -/
def directoryOutcomes (disk : Disk) (path : Path) : Outcomes Fault Unit where
  done := fun _ later => Disk.Furnished (disk.OnWay path) disk later ∧ later.Reaches path ∧
    later.node? (disk.destination path) = some .directory
  failed := fun _ later => Disk.Furnished (disk.OnWay path) disk later
  stopped := Disk.Furnished (disk.OnWay path) disk

theorem leads_acceptDirectory (path : Path) (fault : Fault) :
    (acceptDirectory path fault).Leads disk (directoryOutcomes disk path) := by
  have same := @Disk.Furnished.refl (disk.OnWay path) disk
  unfold acceptDirectory
  split
  · refine leads_ask_bind ?_ fun _ _ => same
    intro isDirectory asked
    split
    · rename_i yes
      rw [yes, mapError_eq_ok_iff, Disk.isDirectory_eq_true_iff] at asked
      exact leads_pure ⟨same, asked⟩
    · exact leads_fail same
  · exact leads_fail same

/-- Making one directory, which may be there already. -/
theorem leads_makeDirectory {path : Path} {handle : Fault → Work Fault Unit}
    (handled : ∀ fault, (handle fault).Leads disk (directoryOutcomes disk path)) :
    ((perform (.makeDirectory path)).orElse handle).Leads disk (directoryOutcomes disk path) := by
  have same := @Disk.Furnished.refl (disk.OnWay path) disk
  have made : (perform (.makeDirectory path)).Leads disk
      ⟨(directoryOutcomes disk path).done, fun _ later => later = disk,
        fun later => later = disk⟩ := by
    refine leads_perform ?_ (fun _ _ => rfl) rfl rfl
    intro later applied
    obtain ⟨reaches, free, rfl⟩ := Change.apply_makeDirectory_eq_ok_iff.mp applied
    have noDirectory : disk.node? (disk.destination path) ≠ some .directory := by simp [free]
    have altered := Disk.alters_put noDirectory .directory
    refine ⟨⟨rfl, ?_⟩, (Disk.keeps_put noDirectory _).reaches reaches, ?_⟩
    · intro location
      by_cases here : location = disk.destination path
      · subst here
        exact Or.inr ⟨free, by rw [altered.node, if_pos rfl], disk.onWay_destination path⟩
      · exact Or.inl (by rw [altered.node, if_neg here])
    · rw [altered.node, if_pos rfl]
  refine made.orElse (fun _ _ => id) ?_ ?_
  · rintro fault _ rfl
    exact handled fault
  · rintro _ rfl
    exact same

/-- What happens after some directories are made counts from the disk before. -/
theorem Leads.afterDirectories {work : Work Fault Unit} {later : Disk} {path : Path}
    (leads : work.Leads later (directoryOutcomes later path))
    (furnished : Disk.Furnished (disk.OnWay path) disk later) :
    work.Leads later (directoryOutcomes disk path) := by
  have sameWay := @Disk.onWay_of_current _ _ furnished.current path
  have sameEnd := Disk.destination_of_current furnished.current path
  unfold directoryOutcomes at leads
  rw [sameWay, sameEnd] at leads
  refine leads.mono ?_ ?_ ?_
  · rintro _ last ⟨more, there⟩
    exact ⟨furnished.trans more, there⟩
  · exact fun _ _ more => furnished.trans more
  · exact fun _ more => furnished.trans more

/-- Whatever happens, only directories on the way to the path are new. -/
theorem leads_ensureDirectory (depth : Nat) (path : Path) :
    (ensureDirectory depth path).Leads disk (directoryOutcomes disk path) := by
  induction depth generalizing path disk with
  | zero => exact leads_makeDirectory (leads_acceptDirectory path)
  | succ depth induction =>
      refine leads_makeDirectory fun fault => ?_
      split
      · refine (induction path.parent).bind ?_ ?_ ?_
        · rintro _ later ⟨furnished, _⟩
          have again := leads_makeDirectory (@leads_acceptDirectory later path)
          exact again.afterDirectories (furnished.mono fun _ => Disk.OnWay.of_parent)
        · exact fun _ _ furnished => furnished.mono fun _ => Disk.OnWay.of_parent
        · exact fun _ furnished => furnished.mono fun _ => Disk.OnWay.of_parent
      · split
        · exact leads_fail (Disk.Furnished.refl disk)
        · exact leads_acceptDirectory path fault

end Work

/-! ## Temporary files -/

/-- The name of a temporary file beside a path. -/
def Path.temporaryName (path : Path) (n : Nat) : String :=
  "." ++ path.name ++ "." ++ Work.serial n ++ ".tmp"

theorem Work.temporaryBeside_eq (path : Path) (n : Nat) :
    temporaryBeside path n = ⟨path.slashes, path.parts.dropLast ++ [path.temporaryName n]⟩ :=
  rfl

theorem Disk.destination_of_parts {disk : Disk} {path : Path} {names : List String} {name : String}
    (parts : path.parts = names ++ [name]) (plain : name ≠ "..") :
    disk.destination path = disk.destination ⟨path.slashes, names⟩ ++ [name] := by
  unfold Disk.destination
  rw [parts, List.foldl_append, List.foldl_cons, List.foldl_nil, Disk.step, if_neg plain]
  rfl

theorem Path.temporaryName_length (path : Path) (n : Nat) :
    path.name.length + 6 ≤ (path.temporaryName n).length := by
  have dot : ".".length = 1 := rfl
  have suffix : ".tmp".length = 4 := rfl
  simp only [temporaryName, String.length_append, dot, suffix]
  omega

theorem Disk.destination_temporaryBeside (disk : Disk) (path : Path) (n : Nat) :
    disk.destination (Work.temporaryBeside path n) =
      disk.destination path.parent ++ [path.temporaryName n] := by
  refine Disk.destination_of_parts rfl ?_
  intro same
  have long := path.temporaryName_length n
  rw [same] at long
  have short : "..".length = 2 := rfl
  omega

/-- A name in the directory of a path that is longer than the name of the path stands for
another location. -/
theorem Disk.destination_ne_longer {disk : Disk} {path : Path} {other : String}
    (named : path.parts ≠ []) (longer : path.name.length < other.length) :
    disk.destination path ≠ disk.destination path.parent ++ [other] := by
  have parts := Path.parts_eq_concat named
  by_cases dots : path.name = ".."
  · have above : disk.destination path = (disk.destination path.parent).dropLast := by
      rw [destination, parts, List.foldl_append, dots]
      rfl
    intro same
    have lengths := congrArg List.length same
    rw [above] at lengths
    simp only [List.length_dropLast, List.length_append, List.length_singleton] at lengths
    omega
  · rw [destination_of_parts parts dots]
    intro same
    have sameName : path.name = other := by simpa [Path.parent] using same
    rw [sameName] at longer
    omega

theorem Disk.temporary_ne {disk : Disk} {path : Path} (named : path.parts ≠ []) (n : Nat) :
    disk.destination (Work.temporaryBeside path n) ≠ disk.destination path := by
  have long := path.temporaryName_length n
  rw [destination_temporaryBeside]
  exact Ne.symm (destination_ne_longer named (by omega))

theorem Path.parts_ne_nil_of_isMovable {path : Path} (movable : Disk.isMovable path = true) :
    path.parts ≠ [] := by
  intro none
  rw [Disk.isMovable, Path.name, none] at movable
  cases movable

namespace Work

variable {disk between : Disk} {path : Path} {text : String}

/-! ## Writing a file -/

/-- A disk that is as another one but for a temporary file. -/
def Littered (path : Path) (disk later : Disk) : Prop :=
  later = disk ∨ ∃ n content, disk.node? (disk.destination (temporaryBeside path n)) = none ∧
    Disk.Alters (disk.destination (temporaryBeside path n)) (some (.file content)) disk later

theorem Littered.keeps {later : Disk} (littered : Littered path disk later) : disk.Keeps later := by
  rcases littered with rfl | ⟨n, content, free, alters⟩
  · exact Disk.Keeps.refl _
  · exact alters.keeps (Disk.noDirectory_of_none free)

/-- A path at which a file with a text was put in the place of what stood there. -/
structure Written (path : Path) (text : String) (disk later : Disk) : Prop where
  movable : Disk.isMovable path = true
  noDirectory : disk.node? (disk.destination path) ≠ some .directory
  alters : Disk.Alters (disk.destination path) (some (.file (.text text))) disk later
  reaches : later.Reaches path
  temporary : ∃ n, Disk.Fits (temporaryBeside path n)

/-- What writing a file leads to. -/
def writeOutcomes (disk : Disk) (path : Path) (text : String) : Outcomes Fault Unit where
  done := fun _ later => ∃ between,
    Disk.Furnished (disk.OnWay path.parent) disk between ∧ Written path text between later
  failed := fun _ later => Disk.Furnished (disk.OnWay path.parent) disk later
  stopped := fun later => ∃ between,
    Disk.Furnished (disk.OnWay path.parent) disk between ∧ Littered path between later

/-- A temporary file with some content stands where nothing stood. -/
structure Filling (temporary : Path) (content : Content) (disk later : Disk) : Prop where
  free : disk.node? (disk.destination temporary) = none
  reaches : later.Reaches temporary
  alters : Disk.Alters (disk.destination temporary) (some (.file content)) disk later

theorem Filling.file {temporary : Path} {content : Content}
    (filling : Filling temporary content disk between) :
    between.node? (between.destination temporary) = some (.file content) := by
  rw [Disk.destination_of_current filling.alters.current, filling.alters.here]

/-- What is done about a temporary file that does not take its place. -/
def cleanUp (temporary : Path) (fault : Fault) : Work Fault Unit := do
  (change (.remove temporary)).orElse fun removal =>
    if removal = Fault.file .missing then pure () else fail removal
  fail fault

/-- Removing the temporary file puts things back. -/
theorem leads_cleanUp {temporary : Path} {content : Content} {ways : Location → Prop}
    {fault : Fault} (filling : Filling temporary content disk between) :
    (cleanUp temporary fault).Leads between
      ⟨fun _ _ => False, fun _ later => Disk.Furnished ways disk later, fun _ => False⟩ := by
  have removed : (change (.remove temporary)).Leads between
      ⟨fun _ later => Disk.Furnished ways disk later, fun _ _ => False, fun _ => False⟩ := by
    refine leads_change ?_ ?_
    · intro later applied
      obtain ⟨_, _, _, rfl⟩ := Change.apply_remove_eq_ok_iff.mp applied
      have erased : Disk.Alters (disk.destination temporary) none between
          (between.erase (between.destination temporary)) := by
        rw [← Disk.destination_of_current filling.alters.current]
        exact Disk.alters_erase (Disk.noDirectory_of_file filling.file)
      exact (filling.alters.trans erased).furnished filling.free
    · intro fault refused
      have applied := Change.apply_remove_eq_ok_iff.mpr
        ⟨filling.reaches, content, filling.file, rfl⟩
      rw [applied] at refused
      cases refused
  refine (removed.orElse (fun _ _ => id) (fun _ _ => False.elim) fun _ => id).bind ?_
    (fun _ _ => False.elim) (fun _ => False.elim)
  exact fun _ _ restored => leads_fail restored

theorem Filling.written {temporary : Path} {content : Content} {later : Disk}
    (filling : Filling temporary content disk between)
    (applied : (Change.writeFile temporary text).apply between = .ok later) :
    Filling temporary (.text text) disk later := by
  obtain ⟨reaches, _, file, rfl⟩ := Change.apply_writeFile_eq_ok_iff.mp applied
  have noDirectory := Disk.noDirectory_of_file file
  have altered := Disk.alters_put noDirectory (.file (.text text))
  refine ⟨filling.free, (altered.keeps noDirectory).reaches reaches, ?_⟩
  rw [Disk.destination_of_current filling.alters.current] at altered ⊢
  exact filling.alters.trans altered

theorem Filling.replaced {n : Nat} {later : Disk}
    (filling : Filling (temporaryBeside path n) (.text text) disk between)
    (applied : (Change.replace (temporaryBeside path n) path).apply between = .ok later) :
    Written path text disk later := by
  obtain ⟨_, reaches, movable, noDirectory, rfl⟩ :=
    (Change.apply_replace_file_eq_ok_iff filling.file).mp applied
  have movablePath : Disk.isMovable path = true := (Bool.and_eq_true_iff.mp movable).2
  have differs := @Disk.temporary_ne between path (Path.parts_ne_nil_of_isMovable movablePath) n
  obtain ⟨erased, put, keeps⟩ := Disk.alters_move filling.file differs noDirectory
  have sameCurrent := filling.alters.current
  have sameHere := Disk.destination_of_current sameCurrent (temporaryBeside path n)
  have sameThere := Disk.destination_of_current sameCurrent path
  rw [if_neg differs]
  simp only [sameHere, sameThere] at differs erased put keeps noDirectory ⊢
  refine ⟨movablePath, ?_, ⟨?_, fun other => ?_⟩, keeps.reaches reaches,
    n, filling.reaches.fits⟩
  · rw [← filling.alters.elsewhere (Ne.symm differs)]
    exact noDirectory
  · exact sameCurrent
  · rw [put.node, erased.node]
    split
    · rfl
    · split
      · rename_i here
        rw [here, filling.free]
      · rename_i notHere
        exact filling.alters.elsewhere notHere

theorem leads_fill {n : Nat} {content : Content}
    (filling : Filling (temporaryBeside path n) content disk between) :
    (do
      perform (.writeFile (temporaryBeside path n) text)
      perform (.syncFile (temporaryBeside path n))
      perform (.replace (temporaryBeside path n) path) : Work Fault Unit).Leads between
      ⟨fun _ later => Written path text disk later,
        fun _ later => ∃ content, Filling (temporaryBeside path n) content disk later,
        fun later => ∃ content, Filling (temporaryBeside path n) content disk later⟩ := by
  have writing : (perform (.writeFile (temporaryBeside path n) text)).Leads between
      ⟨fun _ later => Filling (temporaryBeside path n) (.text text) disk later,
        fun _ later => later = between, fun later => later = between⟩ :=
    leads_perform (fun _ => filling.written) (fun _ _ => rfl) rfl rfl
  refine writing.bind ?_ ?_ ?_
  · intro _ later filled
    have syncing : (perform (.syncFile (temporaryBeside path n))).Leads later
        ⟨fun _ last => last = later, fun _ last => last = later, fun last => last = later⟩ := by
      refine leads_perform ?_ (fun _ _ => rfl) rfl rfl
      intro last applied
      obtain ⟨_, _, _, same⟩ := Change.apply_syncFile_eq_ok_iff.mp applied
      exact same
    refine syncing.bind ?_ ?_ ?_
    · rintro _ _ rfl
      refine leads_perform (fun _ => filled.replaced) ?_ ⟨_, filled⟩ ⟨_, filled⟩
      exact fun _ _ => ⟨_, filled⟩
    · rintro _ _ rfl
      exact ⟨_, filled⟩
    · rintro _ rfl
      exact ⟨_, filled⟩
  · rintro _ _ rfl
    exact ⟨content, filling⟩
  · rintro _ rfl
    exact ⟨content, filling⟩

theorem leads_createFile {disk : Disk} {n : Nat} :
    (perform (.createFile (temporaryBeside path n))).Leads disk
      ⟨fun _ later => Filling (temporaryBeside path n) (.text "") disk later,
        fun _ later => later = disk, fun later => later = disk⟩ := by
  refine leads_perform ?_ (fun _ _ => rfl) rfl rfl
  intro later applied
  obtain ⟨reaches, free, rfl⟩ := Change.apply_createFile_eq_ok_iff.mp applied
  have noDirectory := Disk.noDirectory_of_none free
  have altered := Disk.alters_put noDirectory (.file (.text ""))
  exact ⟨free, (altered.keeps noDirectory).reaches reaches, altered⟩

/-- A file is written as a whole or not at all. -/
theorem leads_atomicWrite (disk : Disk) (path : Path) (text : String) :
    (atomicWrite path text).Leads disk (writeOutcomes disk path text) := by
  unfold atomicWrite
  refine (leads_ensureDirectory path.parts.length path.parent).bind ?_
    (fun _ _ furnished => furnished) (fun later furnished => ⟨later, furnished, Or.inl rfl⟩)
  rintro _ between ⟨furnished, _⟩
  refine leads_disk_bind ?_
  generalize freeSerial between path = n
  refine leads_createFile.bind ?_ ?_ ?_
  · intro _ later filling
    refine (leads_fill filling).orElse ?_ ?_ ?_
    · exact fun _ last written => ⟨between, furnished, written⟩
    · rintro fault last ⟨content, filling⟩
      refine (@leads_cleanUp _ _ _ _ (disk.OnWay path.parent) _ filling).mono (fun _ _ => False.elim) ?_ (fun _ => False.elim)
      exact fun _ _ restored => furnished.trans restored
    · rintro last ⟨content, filling⟩
      exact ⟨between, furnished, Or.inr ⟨n, content, filling.free, filling.alters⟩⟩
  · rintro _ _ rfl
    exact furnished
  · rintro _ rfl
    exact ⟨_, furnished, Or.inl rfl⟩

/-! ## Moving and removing a file -/

/-- A file that was moved from one path to another. -/
structure Moved (source target : Path) (content : Content) (disk later : Disk) : Prop where
  noDirectory : disk.node? (disk.destination target) ≠ some .directory
  current : later.current = disk.current
  node : ∀ location, later.node? location =
    if location = disk.destination target then some (.file content)
    else if location = disk.destination source then none
    else disk.node? location
  reaches : later.Reaches target
  keeps : disk.Keeps later

/-- What moving a file leads to. -/
def moveOutcomes (disk : Disk) (source target : Path) (content : Content) :
    Outcomes Fault Unit where
  done := fun _ later => ∃ between,
    Disk.Furnished (disk.OnWay target.parent) disk between ∧
      Moved source target content between later
  failed := fun _ later => Disk.Furnished (disk.OnWay target.parent) disk later
  stopped := Disk.Furnished (disk.OnWay target.parent) disk

theorem moved_of_replace {source target : Path} {content : Content} {later : Disk}
    (file : disk.node? (disk.destination source) = some (.file content))
    (applied : (Change.replace source target).apply disk = .ok later) :
    Moved source target content disk later := by
  obtain ⟨_, reaches, _, noDirectory, rfl⟩ :=
    (Change.apply_replace_file_eq_ok_iff file).mp applied
  by_cases same : disk.destination source = disk.destination target
  · rw [if_pos same]
    refine ⟨noDirectory, rfl, ?_, reaches, Disk.Keeps.refl disk⟩
    intro location
    by_cases there : location = disk.destination target
    · rw [if_pos there, there, ← same, file]
    · rw [if_neg there, same, if_neg there]
  · rw [if_neg same]
    obtain ⟨erased, put, keeps⟩ := Disk.alters_move file same noDirectory
    refine ⟨noDirectory, put.current.trans erased.current, ?_, keeps.reaches reaches, keeps⟩
    intro location
    rw [put.node, erased.node]

theorem leads_moveFile {source target : Path} {content : Content}
    (file : disk.node? (disk.destination source) = some (.file content)) :
    (moveFile source target).Leads disk (moveOutcomes disk source target content) := by
  refine (leads_ensureDirectory target.parts.length target.parent).bind ?_
    (fun _ _ furnished => furnished) (fun _ furnished => furnished)
  rintro _ between ⟨furnished, _⟩
  have still : between.node? (between.destination source) = some (.file content) := by
    rw [Disk.destination_of_current furnished.current]
    exact furnished.node?_some file
  refine leads_perform ?_ (fun _ _ => furnished) furnished furnished
  exact fun later applied => ⟨between, furnished, moved_of_replace still applied⟩

/-- A directory is not moved to where a file stands. -/
theorem leads_moveFile_directory {source target : Path} {content : Content}
    (directory : disk.node? (disk.destination source) = some .directory)
    (file : disk.node? (disk.destination target) = some (.file content)) :
    (moveFile source target).Leads disk
      ⟨fun _ _ => False, fun _ => Disk.Furnished (disk.OnWay target.parent) disk,
        Disk.Furnished (disk.OnWay target.parent) disk⟩ := by
  refine (leads_ensureDirectory target.parts.length target.parent).bind ?_
    (fun _ _ furnished => furnished) (fun _ furnished => furnished)
  rintro _ between ⟨furnished, _⟩
  refine leads_perform ?_ (fun _ _ => furnished) furnished furnished
  intro later applied
  rw [← Disk.destination_of_current furnished.current] at directory file
  exact Change.apply_replace_directory_ne_ok (furnished.node?_some directory)
    (furnished.node?_some file) applied

/-- What is removed is no directory. -/
theorem leads_remove (path : Path) :
    (perform (.remove path)).Leads disk
      ⟨fun _ later => disk.node? (disk.destination path) ≠ some .directory ∧
          Disk.Alters (disk.destination path) none disk later,
        fun _ later => later = disk, fun later => later = disk⟩ := by
  refine leads_perform ?_ (fun _ _ => rfl) rfl rfl
  intro later applied
  obtain ⟨_, content, file, rfl⟩ := Change.apply_remove_eq_ok_iff.mp applied
  have noDirectory := Disk.noDirectory_of_file file
  exact ⟨noDirectory, Disk.alters_erase noDirectory⟩

theorem leads_removeIfThere {content : Content} (reaches : disk.Reaches path)
    (file : disk.node? (disk.destination path) = some (.file content)) :
    (removeIfThere path).Leads disk
      ⟨fun _ later => Disk.Alters (disk.destination path) none disk later,
        fun _ later => later = disk, fun later => later = disk⟩ := by
  have removing : (perform (.remove path)).Leads disk
      ⟨fun _ later => Disk.Alters (disk.destination path) none disk later,
        fun fault later => fault = .file .interrupted ∧ later = disk,
        fun later => later = disk⟩ := by
    refine leads_perform ?_ ?_ ⟨rfl, rfl⟩ rfl
    · intro later applied
      obtain ⟨_, _, _, rfl⟩ := Change.apply_remove_eq_ok_iff.mp applied
      exact Disk.alters_erase (Disk.noDirectory_of_file file)
    · intro fault refused
      rw [Change.apply_remove_eq_ok_iff.mpr ⟨reaches, content, file, rfl⟩] at refused
      cases refused
  refine removing.orElse (fun _ _ => id) ?_ (fun _ => id)
  rintro _ _ ⟨rfl, rfl⟩
  rw [if_neg (by decide)]
  exact leads_fail rfl

end Work

end AgentFlow
