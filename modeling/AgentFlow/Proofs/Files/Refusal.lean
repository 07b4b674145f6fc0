import AgentFlow.Proofs.Files.Progress

/-!
# Work that may be refused

Without mishaps some work gives an answer or fails, and it is never stopped.  `Work.Ends` says
how it may do so; it has the rules of `Work.Leads`.  By these rules, whatever is done with a
path is refused by the file system, unless the path holds a NUL.
-/

namespace AgentFlow

namespace Work

variable {ε ε' α β : Type} {disk : Disk} {done : α → Disk → Prop} {failed : ε → Prop}

/-- Without mishaps the work gives an answer that is told, or fails with an error that is told. -/
def Ends (work : Work ε α) (disk : Disk) (done : α → Disk → Prop) (failed : ε → Prop) : Prop :=
  ∀ machine : Machine, machine.disk = disk → machine.mishaps = [] →
    (work machine).2.mishaps = [] ∧
      Outcomes.Holds ⟨done, fun e _ => failed e, fun _ => False⟩ (work machine).1
        (work machine).2.disk

theorem Ends.mono {work : Work ε α} {middle : α → Disk → Prop} {raised : ε → Prop}
    (ends : work.Ends disk middle raised) (answered : ∀ a later, middle a later → done a later)
    (refused : ∀ e, raised e → failed e) : work.Ends disk done failed := by
  intro machine atDisk noMishaps
  have holds := ends machine atDisk noMishaps
  revert holds
  rcases work machine with ⟨(e | _) | a, later⟩
  · exact And.imp_right (refused e)
  · exact id
  · exact And.imp_right (answered a later.disk)

/-- What an answer leads to, whatever the mishaps, it leads to without any. -/
theorem Ends.leads {work : Work ε α} {outcomes : Outcomes ε α} (ends : work.Ends disk done failed)
    (leads : work.Leads disk outcomes) :
    work.Ends disk (fun a later => outcomes.done a later ∧ done a later) failed := by
  intro machine atDisk noMishaps
  have holds := ends machine atDisk noMishaps
  have also := leads machine atDisk
  revert holds also
  rcases work machine with ⟨(e | _) | a, later⟩
  · exact fun holds _ => holds
  · exact fun holds _ => holds
  · exact fun holds also => ⟨holds.1, also, holds.2⟩

/-- How work ends without mishaps, told of one machine. -/
theorem Ends.answer {work : Work ε α} {machine : Machine} (ends : work.Ends machine.disk done failed)
    (calm : machine.mishaps = []) :
    (∃ a, (work machine).1 = .ok a ∧ done a (work machine).2.disk) ∨
      ∃ e, (work machine).1 = .error (.failed e) ∧ failed e := by
  have holds := (ends machine rfl calm).2
  revert holds
  rcases work machine with ⟨(e | _) | a, later⟩
  · exact fun refused => .inr ⟨e, rfl, refused⟩
  · exact False.elim
  · exact fun answered => .inl ⟨a, rfl, answered⟩

theorem Completes.ends {work : Work ε α} (completes : work.Completes disk done) :
    work.Ends disk done failed := by
  intro machine atDisk noMishaps
  obtain ⟨a, later, ended, calm, holds⟩ := completes machine atDisk noMishaps
  rw [ended]
  exact ⟨calm, holds⟩

theorem Ends.bind {first : Work ε α} {next : α → Work ε β} {last : β → Disk → Prop}
    (ends : first.Ends disk done failed)
    (goesOn : ∀ a later, done a later → (next a).Ends later last failed) :
    (first >>= next).Ends disk last failed := by
  intro machine atDisk noMishaps
  obtain ⟨calm, holds⟩ := ends machine atDisk noMishaps
  rcases ended : first machine with ⟨(e | _) | a, later⟩
  · rw [ended] at calm holds
    rw [bind_of_error ended]
    exact ⟨calm, holds⟩
  · rw [ended] at holds
    exact holds.elim
  · rw [ended] at calm holds
    rw [bind_of_ok ended]
    exact goesOn a later.disk holds later rfl calm

theorem Ends.mapFault {work : Work ε α} {change : ε → ε'} {failed : ε' → Prop}
    (ends : work.Ends disk done fun e => failed (change e)) :
    (work.mapFault change).Ends disk done failed := by
  intro machine atDisk noMishaps
  have holds := ends machine atDisk noMishaps
  unfold Work.mapFault
  rcases ended : work machine with ⟨(e | _) | a, later⟩
  all_goals
    rw [ended] at holds
    exact holds

theorem Ends.orElse {work : Work ε α} {handle : ε → Work ε α} {raised : ε → Prop}
    (ends : work.Ends disk done raised)
    (handled : ∀ e later, raised e → (handle e).Ends later done failed) :
    (work.orElse handle).Ends disk done failed := by
  intro machine atDisk noMishaps
  obtain ⟨calm, holds⟩ := ends machine atDisk noMishaps
  unfold Work.orElse
  rcases ended : work machine with ⟨(e | _) | a, later⟩
  · rw [ended] at calm holds
    exact handled e later.disk holds later rfl calm
  · rw [ended] at holds
    exact holds.elim
  · rw [ended] at calm holds
    exact ⟨calm, holds⟩

/-! ## Questions -/

end Work

/-! ## Refusals -/

/-- A fault of the file system itself, or of a NUL in a path if there may be one. -/
def Fault.IsRefusal (nul : Prop) (fault : Fault) : Prop :=
  (∃ cause, fault = .file cause) ∨ fault = .nulInPath ∧ nul

/-- The paths that a change is made at. -/
def Change.paths : Change → List Path
  | .makeDirectory path => [path]
  | .createFile path => [path]
  | .writeFile path _ => [path]
  | .syncFile path => [path]
  | .replace source target => [source, target]
  | .remove path => [path]

namespace Path

variable {path : Path}

end Path

namespace Disk

variable {disk : Disk} {path : Path} {fault : Fault} {nul : Prop}

end Disk

namespace Work

variable {disk : Disk} {path source target : Path} {nul : Prop}

end Work

end AgentFlow
