import AgentFlow.Proofs.Agent.Guards
import AgentFlow.Proofs.Files.Atomicity

/-!
# Files of a store that are written as a whole or not at all

What holds of one file that is written holds of the registry, whether a table is saved or a use
is counted, and of the journal, which is written before a promotion changes anything else.
-/

namespace AgentFlow

open AgentFlow.Text

namespace Store

variable {store : Store} {machine : Machine} {error : Error}

/-! ## The registry -/

/-- Counting a use fails with the disk as it was, or by saving a table. -/
theorem leads_incrementUsage_failed (disk : Disk) (name : String) :
    (store.incrementUsage name).Leads disk
      ⟨fun _ _ => True,
        fun _ later => Disk.Furnished (disk.OnWay store.registryPath.parent) disk later,
        fun _ => True⟩ := by
  refine leads_incrementUsage (fun _ _ => .refl disk) (fun _ _ _ => trivial) fun _ _ _ _ => ?_
  exact (leads_save _).mono (fun _ _ _ => trivial) (fun _ _ => id) fun _ _ => trivial

theorem unwritten_of_save {table : Registry}
    (failed : (store.save table machine).1 = .error (.failed error)) :
    Disk.Unwritten store.registryPath machine.disk (store.save table machine).2.disk := by
  have leads := @leads_save store machine.disk table machine rfl
  rw [failed] at leads
  exact Disk.Furnished.unwritten leads

theorem unwritten_of_incrementUsage {name : String}
    (failed : (store.incrementUsage name machine).1 = .error (.failed error)) :
    Disk.Unwritten store.registryPath machine.disk
      (store.incrementUsage name machine).2.disk := by
  have leads := @leads_incrementUsage_failed store machine.disk name machine rfl
  rw [failed] at leads
  exact Disk.Furnished.unwritten leads

theorem save_eq {table : Registry} (short : table.toDocument.longInteger? = none) :
    store.save table = (Work.atomicWrite store.registryPath table.fileText).mapFault
      (wrapAccess fun fault => .registry (.unwritable fault) store.registryPath) := by
  have text : table.toDocument.fileText? = .ok table.fileText := by
    unfold Json.Document.fileText?
    rw [short]
    rfl
  unfold save writeRegistry
  rw [text]
  rfl

/-- A fault of a step that writes the registry is told as an error of the registry file. -/
theorem save_of_stepFails {table : Registry} {cause : FileFault}
    (short : table.toDocument.longInteger? = none)
    (fails : Work.StepFails store.registryPath table.fileText machine (.file cause)) :
    (store.save table machine).1 =
      .error (.failed (.registry (.unwritable (.file cause)) store.registryPath)) := by
  have failed := Work.atomicWrite_failed_iff.mpr fails
  rw [save_eq short]
  unfold Work.mapFault
  rcases ended : Work.atomicWrite store.registryPath table.fileText machine with ⟨result, last⟩
  rw [ended] at failed
  cases failed
  rfl

/-! ## The journal -/

theorem unwritten_of_writeJournal {journal : Path} {promotion : Promotion}
    (journalPath : store.journalPath = .ok journal)
    (failed : (store.writeJournal promotion machine).1 = .error (.failed error)) :
    Disk.Unwritten journal machine.disk (store.writeJournal promotion machine).2.disk := by
  have leads := leads_writeJournal journalPath promotion machine rfl
  rw [failed, ← journal_parent journalPath] at leads
  exact Disk.Furnished.unwritten leads

/-- A promotion whose journal is not written ends there. -/
theorem promote_of_unwritten {today : Date} {name : String} {newName : Option String}
    {promotion : Promotion} {last : Machine}
    (decided : store.intend today name newName machine.disk = .ok (.ok promotion))
    (failed : store.writeJournal promotion machine = (.error (.failed error), last)) :
    store.promote today name newName machine = (.error (.failed error), last) := by
  rw [promote_of_promotion decided, commit_eq, bind_of_error failed]

/-! ## Both -/

/-- How the files of a store are written: whatever fails, no file is lost, changed or new. -/
structure Atomic (store : Store) (machine : Machine) : Prop where
  direct : ∀ path : Path, path.parts ≠ [] →
    machine.disk.Reaches path ∨ machine.disk.IsTree ∧ ".." ∉ path.parts →
      machine.disk.Direct path
  file : ∀ path text, Work.Atomic path text machine
  save : ∀ table error, (store.save table machine).1 = .error (.failed error) →
    Disk.Unwritten store.registryPath machine.disk (store.save table machine).2.disk
  incrementUsage : ∀ name error,
    (store.incrementUsage name machine).1 = .error (.failed error) →
      Disk.Unwritten store.registryPath machine.disk (store.incrementUsage name machine).2.disk
  raises : ∀ table cause, table.toDocument.longInteger? = none →
    Work.StepFails store.registryPath table.fileText machine (.file cause) →
      (store.save table machine).1 =
        .error (.failed (.registry (.unwritable (.file cause)) store.registryPath))
  promote : ∀ today name newName journal promotion error last,
    store.journalPath = .ok journal →
      store.intend today name newName machine.disk = .ok (.ok promotion) →
        store.writeJournal promotion machine = (.error (.failed error), last) →
          store.promote today name newName machine = (.error (.failed error), last) ∧
            Disk.Unwritten journal machine.disk last.disk ∧
              (machine.disk.pathExists journal = .ok false → machine.disk.Direct journal →
                last.disk.pathExists journal ≠ .ok true)

theorem writes_atomic (store : Store) (machine : Machine) : store.Atomic machine where
  direct := by
    intro path named leads
    rcases leads with reaches | ⟨tree, plain⟩
    · exact reaches.direct named
    · exact tree.direct named plain
  file := fun path text => Work.atomic path text machine
  save := fun _ _ => unwritten_of_save
  incrementUsage := fun _ _ => unwritten_of_incrementUsage
  raises := fun _ _ => save_of_stepFails
  promote := by
    intro today name newName journal promotion error last journalPath decided failed
    have unwritten := unwritten_of_writeJournal journalPath (congrArg Prod.fst failed)
    rw [failed] at unwritten
    refine ⟨promote_of_unwritten decided failed, unwritten, ?_⟩
    intro absent direct isThere
    rw [(unwritten.same direct).exists_, absent] at isThere
    cases isThere

/-- A registry that is there, and a fault when its new content is brought to the device. -/
def faultyMachine : Machine :=
  { Machine.ofDisk ⟨[(["agents"], .directory), (["agents", "r"], .file (.text "\x7b\x7d"))], []⟩ with
    mishaps := [.none, .none, .none, .fault] }

theorem writes_atomic_faulty :
    (plainStore.save [] faultyMachine).1 =
        .error (.failed (.registry (.unwritable (.file .interrupted)) plainStore.registryPath)) ∧
      (plainStore.save [] faultyMachine).2.disk.fileAt plainStore.registryPath =
        .ok (["agents", "r"], .text "\x7b\x7d") := by
  have atomic := writes_atomic plainStore faultyMachine
  have failed : (plainStore.save [] faultyMachine).1 =
      .error (.failed (.registry (.unwritable (.file .interrupted)) plainStore.registryPath)) := rfl
  exact ⟨failed, (atomic.save [] _ failed).kept _ rfl⟩

/-- Where a path leads through its own place, the directory that is made on the way stays in
its place when the file cannot be written. -/
theorem directory_left_in_place :
    Disk.pathExists ⟨[], []⟩ ⟨0, ["d", "..", "d"]⟩ = .ok false ∧
      (Work.atomicWrite ⟨0, ["d", "..", "d"]⟩ "x" (.ofDisk ⟨[], []⟩)).1 =
        .error (.failed (.file .isADirectory)) ∧
      (Work.atomicWrite ⟨0, ["d", "..", "d"]⟩ "x" (.ofDisk ⟨[], []⟩)).2.disk.pathExists
        ⟨0, ["d", "..", "d"]⟩ = .ok true :=
  ⟨rfl, rfl, rfl⟩

end Store

end AgentFlow
