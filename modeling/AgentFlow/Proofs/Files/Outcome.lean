import AgentFlow.Files.Work
import AgentFlow.Proofs.Result

/-!
# What work on files leads to

`Work.Leads` says what holds of the disk when some work ends, in each of the three ways
it can end: with an answer, with an error, or by being stopped.  It speaks of every list
of mishaps, so what it says of the disk holds after every crash.  There is one rule for
each way to put work together.
-/

namespace AgentFlow

/-- What holds when some work ends, by the way it ends. -/
structure Outcomes (ε α : Type) where
  done : α → Disk → Prop
  failed : ε → Disk → Prop
  stopped : Disk → Prop

/-- What the outcomes say of an ending and a disk. -/
def Outcomes.Holds {ε α : Type} (after : Outcomes ε α) : Except (Halt ε) α → Disk → Prop
  | .ok a, disk => after.done a disk
  | .error (.failed e), disk => after.failed e disk
  | .error .stopped, disk => after.stopped disk

namespace Work

variable {ε ε' α β : Type} {disk : Disk}

/-- Whatever mishaps the changes meet, the work ends as the outcomes say. -/
def Leads (work : Work ε α) (disk : Disk) (after : Outcomes ε α) : Prop :=
  ∀ machine : Machine, machine.disk = disk →
    after.Holds (work machine).1 (work machine).2.disk

theorem Leads.mono {work : Work ε α} {after middle : Outcomes ε α} (leads : work.Leads disk middle)
    (done : ∀ a later, middle.done a later → after.done a later)
    (failed : ∀ e later, middle.failed e later → after.failed e later)
    (stopped : ∀ later, middle.stopped later → after.stopped later) :
    work.Leads disk after := by
  intro machine atDisk
  have holds := leads machine atDisk
  revert holds
  rcases work machine with ⟨(e | _) | a, later⟩
  · exact failed e later.disk
  · exact stopped later.disk
  · exact done a later.disk

theorem leads_pure {a : α} {after : Outcomes ε α} (done : after.done a disk) :
    (pure a : Work ε α).Leads disk after := by
  rintro machine rfl
  exact done

theorem leads_fail {e : ε} {after : Outcomes ε α} (failed : after.failed e disk) :
    (fail e : Work ε α).Leads disk after := by
  rintro machine rfl
  exact failed

/-- What comes first may end the whole; after its answer the rest goes on. -/
theorem Leads.bind {first : Work ε α} {next : α → Work ε β} {middle : Outcomes ε α}
    {after : Outcomes ε β} (leads : first.Leads disk middle)
    (goesOn : ∀ a later, middle.done a later → (next a).Leads later after)
    (failed : ∀ e later, middle.failed e later → after.failed e later)
    (stopped : ∀ later, middle.stopped later → after.stopped later) :
    (first >>= next).Leads disk after := by
  intro machine atDisk
  have holds := leads machine atDisk
  rcases ended : first machine with ⟨(e | _) | a, later⟩
  · rw [ended] at holds
    rw [bind_of_error ended]
    exact failed e later.disk holds
  · rw [ended] at holds
    rw [bind_of_error ended]
    exact stopped later.disk holds
  · rw [ended] at holds
    rw [bind_of_ok ended]
    exact goesOn a later.disk holds later rfl

theorem Leads.mapFault {work : Work ε α} {change : ε → ε'} {after : Outcomes ε' α}
    (leads : work.Leads disk ⟨after.done, fun e => after.failed (change e), after.stopped⟩) :
    (work.mapFault change).Leads disk after := by
  intro machine atDisk
  have holds := leads machine atDisk
  unfold Work.mapFault
  rcases ended : work machine with ⟨(e | _) | a, later⟩
  all_goals
    rw [ended] at holds
    exact holds

/-- After an error the handler goes on from the disk that the error left. -/
theorem Leads.orElse {work : Work ε α} {handle : ε → Work ε α} {middle after : Outcomes ε α}
    (leads : work.Leads disk middle)
    (done : ∀ a later, middle.done a later → after.done a later)
    (goesOn : ∀ e later, middle.failed e later → (handle e).Leads later after)
    (stopped : ∀ later, middle.stopped later → after.stopped later) :
    (work.orElse handle).Leads disk after := by
  intro machine atDisk
  have holds := leads machine atDisk
  unfold Work.orElse
  rcases ended : work machine with ⟨(e | _) | a, later⟩
  · rw [ended] at holds
    exact goesOn e later.disk holds later rfl
  · rw [ended] at holds
    exact stopped later.disk holds
  · rw [ended] at holds
    exact done a later.disk holds

/-! ## Questions -/

theorem ask_bind_of_ok {question : Disk → Except ε α} {next : α → Work ε β} {machine : Machine}
    {a : α} (answered : question machine.disk = .ok a) :
    (ask question >>= next) machine = next a machine := by
  refine bind_of_ok ?_
  show ofExcept (question machine.disk) machine = _
  rw [answered]
  rfl

theorem ask_bind_of_error {question : Disk → Except ε α} {next : α → Work ε β}
    {machine : Machine} {e : ε} (answered : question machine.disk = .error e) :
    (ask question >>= next) machine = (.error (.failed e), machine) := by
  refine bind_of_error ?_
  show ofExcept (question machine.disk) machine = _
  rw [answered]
  rfl

/-- Two questions about one disk are one question. -/
theorem ask_bind (question : Disk → Except ε α) (more : α → Disk → Except ε β) :
    (ask fun disk => question disk >>= fun a => more a disk) =
      ask question >>= fun a => ask (more a) := by
  funext machine
  cases answered : question machine.disk with
  | error e =>
      rw [ask_bind_of_error answered]
      show ofExcept (question machine.disk >>= _) machine = _
      rw [answered]
      rfl
  | ok a =>
      rw [ask_bind_of_ok answered]
      show ofExcept (question machine.disk >>= _) machine = _
      rw [answered]
      rfl

theorem ask_ite (condition : Prop) [Decidable condition] (first second : Disk → Except ε α) :
    (ask fun disk => if condition then first disk else second disk) =
      if condition then ask first else ask second := by
  split <;> rfl

theorem ask_ofExcept (result : Except ε α) : (ask fun _ => result) = ofExcept result := rfl

theorem ofExcept_pure (a : α) : (ofExcept (pure a) : Work ε α) = pure a := rfl

theorem ofExcept_error (e : ε) : (ofExcept (.error e) : Work ε α) = fail e := rfl

theorem fail_bind (e : ε) (next : α → Work ε β) : fail e >>= next = fail e := rfl

theorem ite_bind (condition : Prop) [Decidable condition] (first second : Work ε α)
    (next : α → Work ε β) :
    (if condition then first else second) >>= next =
      if condition then first >>= next else second >>= next := by
  split <;> rfl

/-- A question leaves the disk alone, so the rest goes on from the same disk. -/
theorem leads_ask_bind {question : Disk → Except ε α} {next : α → Work ε β}
    {after : Outcomes ε β}
    (goesOn : ∀ a, question disk = .ok a → (next a).Leads disk after)
    (failed : ∀ e, question disk = .error e → after.failed e disk) :
    (ask question >>= next).Leads disk after := by
  rintro machine rfl
  cases answered : question machine.disk with
  | error e =>
      rw [ask_bind_of_error answered]
      exact failed e answered
  | ok a =>
      rw [ask_bind_of_ok answered]
      exact goesOn a answered machine rfl

theorem leads_ofExcept_bind {result : Except ε α} {next : α → Work ε β} {after : Outcomes ε β}
    (goesOn : ∀ a, result = .ok a → (next a).Leads disk after)
    (failed : ∀ e, result = .error e → after.failed e disk) :
    (ofExcept result >>= next).Leads disk after :=
  @leads_ask_bind _ _ _ _ (fun _ => result) _ _ goesOn failed

theorem leads_disk_bind {next : Disk → Work ε β} {after : Outcomes ε β}
    (goesOn : (next disk).Leads disk after) : (Work.disk >>= next).Leads disk after := by
  rintro machine rfl
  exact goesOn machine rfl

theorem leads_tell_bind {record : Log.Record} {next : Unit → Work ε β} {after : Outcomes ε β}
    (goesOn : (next ()).Leads disk after) : (tell record >>= next).Leads disk after := by
  rintro machine rfl
  exact goesOn { machine with records := machine.records ++ [record] } rfl

theorem leads_tell {record : Log.Record} {after : Outcomes ε Unit} (done : after.done () disk) :
    (tell record).Leads disk after := by
  rintro machine rfl
  exact done

/-! ## Changes -/

theorem change_of_ok {step : Change} {machine : Machine} {later : Disk}
    (applied : step.apply machine.disk = .ok later) :
    change step machine =
      (.ok (), { machine with disk := later, changes := machine.changes ++ [step] }) := by
  unfold change
  rw [get_bind]
  simp only [applied]
  rfl

theorem change_of_error {step : Change} {machine : Machine} {fault : Fault}
    (refused : step.apply machine.disk = .error fault) :
    change step machine = (.error (.failed fault), machine) := by
  unfold change
  rw [get_bind]
  simp only [refused]
  rfl

theorem leads_change {step : Change} {after : Outcomes Fault Unit}
    (done : ∀ later, step.apply disk = .ok later → after.done () later)
    (failed : ∀ fault, step.apply disk = .error fault → after.failed fault disk) :
    (change step).Leads disk after := by
  rintro machine rfl
  cases applied : step.apply machine.disk with
  | error fault =>
      rw [change_of_error applied]
      exact failed fault applied
  | ok later =>
      rw [change_of_ok applied]
      exact done later applied

/-- A change is made, or is refused, or meets a mishap; in the last two cases it leaves the
disk as it was. -/
theorem leads_perform {step : Change} {after : Outcomes Fault Unit}
    (done : ∀ later, step.apply disk = .ok later → after.done () later)
    (failed : ∀ fault, step.apply disk = .error fault → after.failed fault disk)
    (interrupted : after.failed (.file .interrupted) disk)
    (stopped : after.stopped disk) :
    (perform step).Leads disk after := by
  rintro machine rfl
  have made := leads_change done failed { machine with mishaps := machine.mishaps.drop 1 } rfl
  unfold perform
  rw [get_bind]
  rcases machine.mishaps.head? with _ | _ | _ | _
  · exact made
  · exact made
  · exact interrupted
  · exact stopped

end Work

end AgentFlow
