import AgentFlow.Proofs.Files.Moving
import AgentFlow.Proofs.Files.Recording
import AgentFlow.Proofs.Files.Writing

/-!
# Files that are written as a whole or not at all

Writing a file goes by steps: its directory is made, a temporary file is made beside it, is
filled and brought to the device, and takes its place.  The call ends as its steps do, so it
fails exactly if one of them does, with the error of that step; the cleaning up in between
neither hides an error nor adds one.  A call that fails leaves every file as it was.  Only
directories may be new, and one of them may stand at the path itself if the path goes through
its own place on the way up again; a path that is direct leads where it led before.
-/

namespace AgentFlow

namespace Disk

variable {disk later : Disk} {path : Path} {node : Node}

/-- A path that does not lead through its own place, and at whose place nothing waits that the
path does not lead to. -/
structure Direct (disk : Disk) (path : Path) : Prop where
  reached : Fits path → disk.node? (disk.destination path) ≠ none → disk.Reaches path
  aside : disk.node? (disk.destination path) = none →
    ¬disk.OnWay path.parent (disk.destination path)

/-- A path leads to the same file on both disks, or to none on both. -/
structure SameAt (path : Path) (disk later : Disk) : Prop where
  exists_ : later.pathExists path = .ok true ↔ disk.pathExists path = .ok true
  file : ∀ found, later.fileAt path = .ok found ↔ disk.fileAt path = .ok found

/-- What is left where a file was to be written and is not: every file is as it was and none is
new, and what could be read at the path can still be read. -/
structure Unwritten (path : Path) (disk later : Disk) : Prop where
  files : ∀ location content,
    later.node? location = some (.file content) ↔ disk.node? location = some (.file content)
  kept : ∀ found, disk.fileAt path = .ok found → later.fileAt path = .ok found
  same : disk.Direct path → SameAt path disk later

/-- A path that can be followed is direct. -/
theorem Reaches.direct (reaches : disk.Reaches path) (named : path.parts ≠ []) :
    disk.Direct path where
  reached := fun _ _ => reaches
  aside := by
    intro free onWay
    have directory := reaches.directory_of_onWay named onWay
    rw [free] at directory
    cases directory

theorem foldl_step_of_plain {names : List String} (plain : ".." ∉ names) (location : Location) :
    names.foldl step location = location ++ names := by
  induction names generalizing location with
  | nil => simp
  | cons name names induction =>
      obtain ⟨differs, plain⟩ := List.ne_and_not_mem_of_not_mem_cons plain
      rw [List.foldl_cons, step, if_neg (Ne.symm differs), induction plain]
      simp

/-- What stands at the end of some names stands in a directory at every stage. -/
theorem IsTree.passable (tree : disk.IsTree) {names : List String} {location : Location}
    (plain : ".." ∉ names) (short : ∀ name ∈ names, name.utf8ByteSize ≤ maxNameLength)
    (taken : disk.node? (location ++ names) ≠ none) : disk.Passable location names := by
  induction names generalizing location with
  | nil => trivial
  | cons name names induction =>
      obtain ⟨differs, plain⟩ := List.ne_and_not_mem_of_not_mem_cons plain
      obtain ⟨shortName, shortNames⟩ := List.forall_mem_cons.mp short
      rw [List.append_cons] at taken
      have here := tree.above taken (List.prefix_append _ _)
      have directory := tree.parent here
      rw [List.dropLast_concat] at directory
      refine ⟨directory, shortName, ?_⟩
      rw [step, if_neg (Ne.symm differs)]
      exact induction plain shortNames taken

/-- On a tree every path that never goes up is direct. -/
theorem IsTree.direct (tree : disk.IsTree) (named : path.parts ≠ []) (plain : ".." ∉ path.parts) :
    disk.Direct path where
  reached := by
    intro fits taken
    rw [destination, foldl_step_of_plain plain] at taken
    exact ⟨fits.noNul, fits.short, tree.passable plain fits.names taken⟩
  aside := by
    intro _ onWay
    obtain ⟨passed, isPrefix, same⟩ := onWay
    have below : passed <+: path.parts := isPrefix.trans (List.dropLast_prefix _)
    have plainPassed : ".." ∉ passed := fun member => plain (below.subset member)
    rw [destination, foldl_step_of_plain plain, foldl_step_of_plain plainPassed] at same
    have whole : path.parts = passed := List.append_cancel_left same
    have shorter := isPrefix.length_le
    have some_ := List.length_pos_iff.mpr named
    rw [← whole, Path.parent, List.length_dropLast] at shorter
    omega

/-- New directories on the way do not change what a direct path leads to. -/
theorem Furnished.node?_of_direct
    (furnished : Furnished (disk.OnWay path.parent) disk later) (direct : disk.Direct path) :
    later.Reaches path ∧ later.node? (later.destination path) = some node ↔
      disk.Reaches path ∧ disk.node? (disk.destination path) = some node := by
  rw [destination_of_current furnished.current]
  constructor
  · intro ⟨reaches, found⟩
    rcases furnished.node (disk.destination path) with same | ⟨free, _, onWay⟩
    · rw [same] at found
      exact ⟨direct.reached reaches.fits (by simp [found]), found⟩
    · exact absurd onWay (direct.aside free)
  · intro ⟨reaches, found⟩
    exact ⟨furnished.keeps.reaches reaches, furnished.node?_some found⟩

theorem Furnished.sameAt (furnished : Furnished (disk.OnWay path.parent) disk later)
    (direct : disk.Direct path) : SameAt path disk later where
  exists_ := by
    simp only [pathExists_eq_true_iff, Option.isSome_iff_exists, ← exists_and_left,
      furnished.node?_of_direct direct]
  file := by
    intro ⟨location, content⟩
    have same := @Furnished.node?_of_direct _ _ _ (.file content) furnished direct
    rw [destination_of_current furnished.current] at same
    rw [fileAt_eq_ok_iff, fileAt_eq_ok_iff, destination_of_current furnished.current]
    constructor
    · intro ⟨reaches, here, found⟩
      subst here
      obtain ⟨reaches, found⟩ := same.mp ⟨reaches, found⟩
      exact ⟨reaches, rfl, found⟩
    · intro ⟨reaches, here, found⟩
      subst here
      obtain ⟨reaches, found⟩ := same.mpr ⟨reaches, found⟩
      exact ⟨reaches, rfl, found⟩

theorem Furnished.unwritten (furnished : Furnished (disk.OnWay path.parent) disk later) :
    Unwritten path disk later where
  files := fun _ _ => ⟨furnished.file, furnished.node?_some⟩
  kept := by
    intro ⟨location, content⟩ found
    obtain ⟨reaches, here, file⟩ := fileAt_eq_ok_iff.mp found
    rw [← destination_of_current furnished.current] at here
    exact fileAt_eq_ok_iff.mpr
      ⟨furnished.keeps.reaches reaches, here, furnished.node?_some file⟩
  same := furnished.sameAt

theorem Unwritten.refl (path : Path) (disk : Disk) : Unwritten path disk disk :=
  (Furnished.refl disk).unwritten

end Disk

namespace Work

variable {path : Path} {text : String} {machine : Machine} {fault : Fault}

/-! ## The steps -/

/-- Changes that are made one after the other. -/
def performAll : List Change → Work Fault Unit
  | [] => pure ()
  | step :: steps => perform step >>= fun _ => performAll steps

/-- The changes that write a file by way of its temporary file of some number. -/
def writing (path : Path) (text : String) (n : Nat) : List Change :=
  [.createFile (temporaryBeside path n), .writeFile (temporaryBeside path n) text,
    .syncFile (temporaryBeside path n), .replace (temporaryBeside path n) path]

/-- Writing a file without any cleaning up. -/
def writeInSteps (path : Path) (text : String) : Work Fault Unit :=
  ensureParent path >>= fun _ => Work.disk >>= fun disk =>
    performAll (writing path text (freeSerial disk path))

/-- A step of writing a file fails: its directory is not made, or one of the changes is not made
after the ones before it. -/
inductive StepFails (path : Path) (text : String) (machine : Machine) (fault : Fault) : Prop
  | parents {later : Machine} (unmade : ensureParent path machine = (.error (.failed fault), later))
  | change {furnished reached later : Machine} {step : Change} {before after : List Change}
      (made : ensureParent path machine = (.ok (), furnished))
      (steps : writing path text (freeSerial furnished.disk path) = before ++ step :: after)
      (performed : performAll before furnished = (.ok (), reached))
      (unmade : perform step reached = (.error (.failed fault), later))

/-- Work that fails has failed in one of its parts. -/
theorem bind_eq_failed {ε α β : Type} {first : Work ε α} {next : α → Work ε β}
    {machine last : Machine} {e : ε}
    (ended : (first >>= next) machine = (.error (.failed e), last)) :
    first machine = (.error (.failed e), last) ∨
      ∃ a later, first machine = (.ok a, later) ∧ next a later = (.error (.failed e), last) := by
  rcases begun : first machine with ⟨halt | a, later⟩
  · rw [bind_of_error begun] at ended
    cases ended
    exact .inl rfl
  · rw [bind_of_ok begun] at ended
    exact .inr ⟨a, later, rfl, ended⟩

/-- Changes in a row fail where one of them does after the ones before it. -/
theorem performAll_eq_failed_iff {steps : List Change} {last : Machine} :
    performAll steps machine = (.error (.failed fault), last) ↔
      ∃ before step after reached, steps = before ++ step :: after ∧
        performAll before machine = (.ok (), reached) ∧
          perform step reached = (.error (.failed fault), last) := by
  induction steps generalizing machine with
  | nil =>
      constructor
      · nofun
      · intro ⟨before, step, after, _, steps, _⟩
        simp at steps
  | cons step steps induction =>
      constructor
      · intro failed
        rcases bind_eq_failed failed with unmade | ⟨⟨⟩, later, made, failed⟩
        · exact ⟨[], step, steps, machine, rfl, rfl, unmade⟩
        · obtain ⟨before, other, after, reached, rfl, performed, unmade⟩ := induction.mp failed
          refine ⟨step :: before, other, after, reached, rfl, ?_, unmade⟩
          rw [performAll, bind_of_ok made]
          exact performed
      · intro ⟨before, other, after, reached, split, performed, unmade⟩
        cases before with
        | nil =>
            cases split
            cases performed
            rw [performAll, bind_of_error unmade]
        | cons first before =>
            cases split
            obtain ⟨⟨⟩, later, made, performed⟩ := bind_eq_ok performed
            rw [performAll, bind_of_ok made]
            exact induction.mpr ⟨before, other, after, reached, rfl, performed, unmade⟩

/-! ### Mishaps -/

theorem perform_of_calm {step : Change} {rest : List Mishap}
    (met : machine.mishaps = .none :: rest) :
    perform step machine = change step { machine with mishaps := rest } := by
  unfold perform
  rw [get_bind, met]
  rfl

theorem perform_of_fault {step : Change} {rest : List Mishap}
    (met : machine.mishaps = .fault :: rest) :
    perform step machine =
      (.error (.failed (.file .interrupted)), { machine with mishaps := rest }) := by
  unfold perform
  rw [get_bind, met]
  rfl

/-- A fault that is met by one of the changes makes one of them fail: that one, unless the file
system has refused one before. -/
theorem performAll_of_fault {steps : List Change} {calm : Nat} {rest : List Mishap}
    (met : machine.mishaps = List.replicate calm .none ++ .fault :: rest)
    (inside : calm < steps.length) :
    ∃ fault last, performAll steps machine = (.error (.failed fault), last) := by
  induction steps generalizing machine calm with
  | nil => simp at inside
  | cons step steps induction =>
      cases calm with
      | zero => exact ⟨_, _, bind_of_error (perform_of_fault met)⟩
      | succ calm =>
          have performed := @perform_of_calm machine step _ met
          cases applied : step.apply machine.disk with
          | error fault =>
              rw [change_of_error (by exact applied)] at performed
              exact ⟨_, _, bind_of_error performed⟩
          | ok later =>
              rw [change_of_ok (by exact applied)] at performed
              rw [performAll, bind_of_ok performed]
              exact induction rfl (by simpa using inside)

theorem disk_bind {ε α : Type} (next : Disk → Work ε α) (machine : Machine) :
    (Work.disk >>= next) machine = next machine.disk machine := rfl

theorem writeInSteps_of_ok {furnished : Machine}
    (made : ensureParent path machine = (.ok (), furnished)) :
    writeInSteps path text machine =
      performAll (writing path text (freeSerial furnished.disk path)) furnished := by
  rw [writeInSteps, bind_of_ok made, disk_bind]

theorem writeInSteps_of_error {furnished : Machine} {halt : Halt Fault}
    (unmade : ensureParent path machine = (.error halt, furnished)) :
    writeInSteps path text machine = (.error halt, furnished) := by
  rw [writeInSteps, bind_of_error unmade]

theorem writeInSteps_eq_failed_iff :
    (∃ last, writeInSteps path text machine = (.error (.failed fault), last)) ↔
      StepFails path text machine fault := by
  constructor
  · intro ⟨last, failed⟩
    rcases made : ensureParent path machine with ⟨halt | ⟨⟩, furnished⟩
    · rw [writeInSteps_of_error made] at failed
      cases failed
      exact .parents made
    · rw [writeInSteps_of_ok made] at failed
      obtain ⟨before, step, after, reached, steps, performed, unmade⟩ :=
        performAll_eq_failed_iff.mp failed
      exact .change made steps performed unmade
  · intro fails
    cases fails with
    | parents unmade => exact ⟨_, writeInSteps_of_error unmade⟩
    | change made steps performed unmade =>
        rw [writeInSteps_of_ok made]
        exact ⟨_, performAll_eq_failed_iff.mpr ⟨_, _, _, _, steps, performed, unmade⟩⟩

/-- A mishap at any of the four changes is the failure of a step. -/
theorem stepFails_of_fault {furnished : Machine} {calm : Nat} {rest : List Mishap}
    (made : ensureParent path machine = (.ok (), furnished))
    (met : furnished.mishaps = List.replicate calm .none ++ .fault :: rest) (inside : calm < 4) :
    ∃ fault, StepFails path text machine fault := by
  obtain ⟨fault, last, failed⟩ := @performAll_of_fault _
    (writing path text (freeSerial furnished.disk path)) _ _ met inside
  rw [← writeInSteps_of_ok made] at failed
  exact ⟨fault, writeInSteps_eq_failed_iff.mp ⟨last, failed⟩⟩

/-! ## Cleaning up -/

/-- The temporary file is there to be removed, so the error stays the one that was met. -/
theorem ended_cleanUp {temporary : Path} {content : Content} {disk : Disk}
    (filling : Filling temporary content disk machine.disk) :
    (cleanUp temporary fault machine).1 = .error (.failed fault) := by
  have applied := Change.apply_remove_eq_ok_iff.mpr ⟨filling.reaches, content, filling.file, rfl⟩
  have removed : ∃ later, ((change (.remove temporary)).orElse fun removal =>
      if removal = Fault.file .missing then pure () else fail removal) machine =
        (.ok (), later) := by
    unfold Work.orElse
    rw [change_of_ok applied]
    exact ⟨_, rfl⟩
  obtain ⟨later, removed⟩ := removed
  unfold cleanUp
  rw [bind_of_ok removed]
  rfl

theorem performAll_fill (path : Path) (text : String) (n : Nat) :
    performAll [.writeFile (temporaryBeside path n) text, .syncFile (temporaryBeside path n),
        .replace (temporaryBeside path n) path] = (do
      perform (.writeFile (temporaryBeside path n) text)
      perform (.syncFile (temporaryBeside path n))
      perform (.replace (temporaryBeside path n) path)) := by
  simp only [performAll, bind_pure_unit]

theorem ended_writeBeside (path : Path) (text : String) (machine : Machine) :
    (writeBeside path text machine).1 =
      (performAll (writing path text (freeSerial machine.disk path)) machine).1 := by
  unfold writeBeside
  rw [disk_bind, writing, performAll, performAll_fill]
  generalize freeSerial machine.disk path = n
  have creating := @leads_createFile path machine.disk n machine rfl
  rcases created : perform (.createFile (temporaryBeside path n)) machine with ⟨halt | ⟨⟩, later⟩
  · rw [bind_of_error created, bind_of_error created]
  · rw [created] at creating
    rw [bind_of_ok created, bind_of_ok created]
    have filling := @leads_fill _ _ path text n _ creating later rfl
    revert filling
    unfold Work.orElse
    rcases (do
      perform (.writeFile (temporaryBeside path n) text)
      perform (.syncFile (temporaryBeside path n))
      perform (.replace (temporaryBeside path n) path) : Work Fault Unit) later with
      ⟨(fault | _) | ⟨⟩, last⟩
    · intro ⟨content, filling⟩
      exact ended_cleanUp filling
    · exact fun _ => rfl
    · exact fun _ => rfl

/-- Cleaning up does not change how the writing of a file ends. -/
theorem ended_atomicWrite (path : Path) (text : String) (machine : Machine) :
    (atomicWrite path text machine).1 = (writeInSteps path text machine).1 := by
  rw [atomicWrite_eq]
  rcases made : ensureParent path machine with ⟨halt | ⟨⟩, furnished⟩
  · rw [bind_of_error made, writeInSteps_of_error made]
  · rw [bind_of_ok made, writeInSteps_of_ok made]
    exact ended_writeBeside path text furnished

/-- Writing a file fails exactly if one of its steps does, with the error of that step. -/
theorem atomicWrite_failed_iff :
    (atomicWrite path text machine).1 = .error (.failed fault) ↔
      StepFails path text machine fault := by
  rw [ended_atomicWrite, ← writeInSteps_eq_failed_iff]
  constructor
  · exact fun failed => ⟨_, Prod.ext failed rfl⟩
  · intro ⟨last, failed⟩
    rw [failed]

/-! ## What is left -/

/-- How the writing of a file at a path ends. -/
structure Atomic (path : Path) (text : String) (machine : Machine) : Prop where
  raised : ∀ fault, (atomicWrite path text machine).1 = .error (.failed fault) ↔
    StepFails path text machine fault
  interrupted : ∀ furnished calm rest, ensureParent path machine = (.ok (), furnished) →
    furnished.mishaps = List.replicate calm .none ++ .fault :: rest → calm < 4 →
      ∃ fault, (atomicWrite path text machine).1 = .error (.failed fault)
  unwritten : ∀ fault, (atomicWrite path text machine).1 = .error (.failed fault) →
    Disk.Unwritten path machine.disk (atomicWrite path text machine).2.disk
  written : (atomicWrite path text machine).1 = .ok () →
    (atomicWrite path text machine).2.disk.fileAt path =
      .ok (machine.disk.destination path, .text text)

theorem unwritten_of_atomicWrite
    (failed : (atomicWrite path text machine).1 = .error (.failed fault)) :
    Disk.Unwritten path machine.disk (atomicWrite path text machine).2.disk := by
  have leads := leads_atomicWrite machine.disk path text machine rfl
  rw [failed] at leads
  exact Disk.Furnished.unwritten leads

theorem fileAt_of_atomicWrite (wrote : (atomicWrite path text machine).1 = .ok ()) :
    (atomicWrite path text machine).2.disk.fileAt path =
      .ok (machine.disk.destination path, .text text) := by
  have leads := leads_atomicWrite machine.disk path text machine rfl
  rw [wrote] at leads
  obtain ⟨between, furnished, written⟩ := leads
  refine Disk.fileAt_eq_ok_iff.mpr ⟨written.reaches, ?_, ?_⟩
  · rw [Disk.destination_of_current written.alters.current,
      Disk.destination_of_current furnished.current]
  · rw [← Disk.destination_of_current furnished.current]
    exact written.alters.here

theorem atomic (path : Path) (text : String) (machine : Machine) : Atomic path text machine where
  raised := fun _ => atomicWrite_failed_iff
  interrupted := by
    intro furnished calm rest made met inside
    obtain ⟨fault, fails⟩ := stepFails_of_fault made met inside
    exact ⟨fault, atomicWrite_failed_iff.mpr fails⟩
  unwritten := fun _ => unwritten_of_atomicWrite
  written := fileAt_of_atomicWrite

end Work

end AgentFlow
