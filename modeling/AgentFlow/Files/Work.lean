import AgentFlow.Error.Basic
import AgentFlow.Files.Change
import AgentFlow.Log.Logged

/-!
# Work on files

A program that changes files goes from change to change.  At every change it may meet
a mishap: the change fails, or the whole program stops right before it.  Both leave the
disk as the changes so far have made it, so what can be found on the disk after a crash
is what some list of mishaps leads to.
-/

namespace AgentFlow

/-- What may happen to a change. -/
inductive Mishap where
  | none
  | fault
  | stop
  deriving DecidableEq, Repr

/-- What a program works on: the disk, the mishaps that its next changes will meet, the
changes it has made, and the records it has logged. -/
structure Machine where
  disk : Disk
  mishaps : List Mishap
  changes : List Change
  records : List Log.Record

/-- A machine on which nothing is done yet, and no change will meet a mishap. -/
def Machine.ofDisk (disk : Disk) : Machine := ⟨disk, [], [], []⟩

/-- Why a program ends before its end: by an error, or because it was stopped. -/
inductive Halt (ε : Type) where
  | failed (error : ε)
  | stopped
  deriving Repr

/-- A program that works on files. -/
abbrev Work (ε α : Type) := ExceptT (Halt ε) (StateM Machine) α

namespace Work

variable {ε ε' α : Type}

/-- Give up with an error. -/
def fail (error : ε) : Work ε α := throw (.failed error)

/-- The disk as it is now. -/
def disk : Work ε Disk := return (← get).disk

/-- Go on with an answer, or give up with an error. -/
def ofExcept (result : Except ε α) : Work ε α :=
  match result with
  | .ok a => pure a
  | .error e => fail e

/-- Ask something about the disk. -/
def ask (question : Disk → Except ε α) : Work ε α := do
  ofExcept (question (← disk))

/-- Log one record. -/
def tell (record : Log.Record) : Work ε Unit :=
  modify fun machine => { machine with records := machine.records ++ [record] }

/-- A computation that logs, as a part of the work. -/
def ofLogged (computation : Logged ε α) : Work ε α := do
  modify fun machine => { machine with records := machine.records ++ computation.records }
  ofExcept computation.result

/-- The work with another kind of error. -/
def mapFault (change : ε → ε') (work : Work ε α) : Work ε' α :=
  fun machine =>
    match work machine with
    | (.ok a, after) => (.ok a, after)
    | (.error (.failed e), after) => (.error (.failed (change e)), after)
    | (.error .stopped, after) => (.error .stopped, after)

/-- Go on in another way after an error.  A program that was stopped does not go on. -/
def orElse (work : Work ε α) (handle : ε → Work ε α) : Work ε α :=
  fun machine =>
    match work machine with
    | (.error (.failed e), after) => handle e after
    | answer => answer

/-- Change the disk, whatever the mishaps. -/
def change (step : Change) : Work Fault Unit := do
  let machine ← get
  match step.apply machine.disk with
  | .error fault => fail fault
  | .ok disk => set { machine with disk := disk, changes := machine.changes ++ [step] }

/-- Change the disk, unless a mishap comes before the change. -/
def perform (step : Change) : Work Fault Unit := do
  let machine ← get
  let later := { machine with mishaps := machine.mishaps.drop 1 }
  match machine.mishaps.head? with
  | some .stop =>
    set later
    throw .stopped
  | some .fault =>
    set later
    fail (.file .interrupted)
  | _ =>
    set later
    change step

/-- A directory at a path may be there already. -/
def acceptDirectory (path : Path) (fault : Fault) : Work Fault Unit :=
  match fault with
  | .file _ => do
    if ← ask fun disk => (disk.isDirectory path).mapError Fault.file then pure () else fail fault
  | _ => fail fault

/-- Make a directory and those above it, as far as they are missing. -/
def ensureDirectory : Nat → Path → Work Fault Unit
  | 0, path => (perform (.makeDirectory path)).orElse (acceptDirectory path)
  | depth + 1, path =>
    (perform (.makeDirectory path)).orElse fun fault =>
      if fault = Fault.file .missing ∧ path.parent ≠ path then do
        ensureDirectory depth path.parent
        (perform (.makeDirectory path)).orElse (acceptDirectory path)
      else if fault = Fault.file .missing then fail fault
      else acceptDirectory path fault

/-- Make the directory that a path lies in. -/
def ensureParent (path : Path) : Work Fault Unit :=
  ensureDirectory path.parts.length path.parent

/-- The number of a temporary name, in eight digits. -/
def serial (n : Nat) : String := String.ofList (paddedDigits 8 n)

/-- A temporary path beside a path. -/
def temporaryBeside (path : Path) (n : Nat) : Path :=
  ⟨path.slashes, path.parts.dropLast ++ ["." ++ path.name ++ "." ++ serial n ++ ".tmp"]⟩

/-- The first number whose temporary path is free. -/
def freeSerial (disk : Disk) (path : Path) : Nat :=
  let isFree (n : Nat) : Bool := (disk.pathExists (temporaryBeside path n)).toOption != some true
  ((List.range (disk.nodes.length + 1)).find? isFree).getD 0

/-- Write a file by way of a temporary one beside it, which takes its place only when it
is complete.  If that fails, the temporary file goes away. -/
def atomicWrite (path : Path) (text : String) : Work Fault Unit := do
  ensureParent path
  let temporary := temporaryBeside path (freeSerial (← disk) path)
  perform (.createFile temporary)
  (do
    perform (.writeFile temporary text)
    perform (.syncFile temporary)
    perform (.replace temporary path)).orElse fun fault => do
      (change (.remove temporary)).orElse fun removal =>
        if removal = Fault.file .missing then pure () else fail removal
      fail fault

/-- Move a file to another path, making the directory it goes to. -/
def moveFile (source target : Path) : Work Fault Unit := do
  ensureParent target
  perform (.replace source target)

/-- Remove a file that may be gone already. -/
def removeIfThere (path : Path) : Work Fault Unit :=
  (perform (.remove path)).orElse fun fault =>
    if fault = Fault.file .missing then pure () else fail fault

end Work

end AgentFlow
