import AgentFlow.Proofs.Files.Outcome

/-!
# Work that comes to its end

`Work.Leads` speaks of every ending, but does not say that some work gives an answer.
`Work.Completes` says so, for work that meets no mishap.  It has the same rules; in
addition a change has to be shown to be possible, or its refusal to be handled.
-/

namespace AgentFlow

namespace Work

variable {ε ε' α β : Type} {disk : Disk}

/-- Without mishaps the work gives an answer. -/
def Completes (work : Work ε α) (disk : Disk) (after : α → Disk → Prop) : Prop :=
  ∀ machine : Machine, machine.disk = disk → machine.mishaps = [] →
    ∃ a later, work machine = (.ok a, later) ∧ later.mishaps = [] ∧ after a later.disk

theorem Completes.mono {work : Work ε α} {after middle : α → Disk → Prop}
    (completes : work.Completes disk middle)
    (done : ∀ a later, middle a later → after a later) : work.Completes disk after := by
  intro machine atDisk noMishaps
  obtain ⟨a, later, ended, none, holds⟩ := completes machine atDisk noMishaps
  exact ⟨a, later, ended, none, done a later.disk holds⟩

/-- Work that gives an answer leads to what its outcomes say of an answer. -/
theorem Completes.leads {work : Work ε α} {after : α → Disk → Prop} {outcomes : Outcomes ε α}
    (completes : work.Completes disk after) (leads : work.Leads disk outcomes) :
    work.Completes disk fun a later => outcomes.done a later ∧ after a later := by
  intro machine atDisk noMishaps
  obtain ⟨a, later, ended, none, holds⟩ := completes machine atDisk noMishaps
  have done := leads machine atDisk
  rw [ended] at done
  exact ⟨a, later, ended, none, done, holds⟩

theorem completes_pure {a : α} {after : α → Disk → Prop} (done : after a disk) :
    (pure a : Work ε α).Completes disk after := by
  rintro machine rfl noMishaps
  exact ⟨a, machine, rfl, noMishaps, done⟩

theorem Completes.bind {first : Work ε α} {next : α → Work ε β} {middle : α → Disk → Prop}
    {after : β → Disk → Prop} (completes : first.Completes disk middle)
    (goesOn : ∀ a later, middle a later → (next a).Completes later after) :
    (first >>= next).Completes disk after := by
  intro machine atDisk noMishaps
  obtain ⟨a, later, ended, none, holds⟩ := completes machine atDisk noMishaps
  rw [bind_of_ok ended]
  exact goesOn a later.disk holds later rfl none

theorem Completes.mapFault {work : Work ε α} {change : ε → ε'} {after : α → Disk → Prop}
    (completes : work.Completes disk after) : (work.mapFault change).Completes disk after := by
  intro machine atDisk noMishaps
  obtain ⟨a, later, ended, none, holds⟩ := completes machine atDisk noMishaps
  refine ⟨a, later, ?_, none, holds⟩
  unfold Work.mapFault
  rw [ended]

/-- Where there is an answer, nothing is to be handled. -/
theorem Completes.orElse {work : Work ε α} {handle : ε → Work ε α} {after : α → Disk → Prop}
    (completes : work.Completes disk after) : (work.orElse handle).Completes disk after := by
  intro machine atDisk noMishaps
  obtain ⟨a, later, ended, none, holds⟩ := completes machine atDisk noMishaps
  refine ⟨a, later, ?_, none, holds⟩
  unfold Work.orElse
  rw [ended]

/-! ## Questions -/

theorem completes_ask_bind {question : Disk → Except ε α} {next : α → Work ε β} {a : α}
    {after : β → Disk → Prop} (answered : question disk = .ok a)
    (goesOn : (next a).Completes disk after) : (ask question >>= next).Completes disk after := by
  rintro machine rfl noMishaps
  rw [ask_bind_of_ok answered]
  exact goesOn machine rfl noMishaps

theorem completes_ofExcept_bind {result : Except ε α} {next : α → Work ε β} {a : α}
    {after : β → Disk → Prop} (answered : result = .ok a)
    (goesOn : (next a).Completes disk after) :
    (ofExcept result >>= next).Completes disk after :=
  @completes_ask_bind _ _ _ _ (fun _ => result) _ _ _ answered goesOn

theorem completes_disk_bind {next : Disk → Work ε β} {after : β → Disk → Prop}
    (goesOn : (next disk).Completes disk after) : (Work.disk >>= next).Completes disk after := by
  rintro machine rfl noMishaps
  exact goesOn machine rfl noMishaps

theorem completes_tell_bind {record : Log.Record} {next : Unit → Work ε β}
    {after : β → Disk → Prop} (goesOn : (next ()).Completes disk after) :
    (tell record >>= next).Completes disk after := by
  rintro machine rfl noMishaps
  exact goesOn { machine with records := machine.records ++ [record] } rfl noMishaps

theorem completes_tell {record : Log.Record} {after : Unit → Disk → Prop} (done : after () disk) :
    (tell record : Work ε Unit).Completes disk after := by
  rintro machine rfl noMishaps
  exact ⟨(), _, rfl, noMishaps, done⟩

/-! ## Changes -/

theorem perform_of_noMishaps {step : Change} {machine : Machine}
    (noMishaps : machine.mishaps = []) : perform step machine = change step machine := by
  unfold perform
  rw [get_bind]
  rcases machine with ⟨_, mishaps, _, _⟩
  obtain rfl : mishaps = [] := noMishaps
  rfl

theorem completes_perform {step : Change} {later : Disk} {after : Unit → Disk → Prop}
    (applied : step.apply disk = .ok later) (done : after () later) :
    (perform step).Completes disk after := by
  rintro machine rfl noMishaps
  refine ⟨(), { machine with disk := later, changes := machine.changes ++ [step] }, ?_, ?_, done⟩
  · rw [perform_of_noMishaps noMishaps, change_of_ok applied]
  · exact noMishaps

theorem completes_perform_bind {step : Change} {next : Unit → Work Fault α} {later : Disk}
    {after : α → Disk → Prop} (applied : step.apply disk = .ok later)
    (goesOn : (next ()).Completes later after) : (perform step >>= next).Completes disk after := by
  refine (@completes_perform _ step later (fun _ last => last = later) applied rfl).bind ?_
  rintro _ _ rfl
  exact goesOn

/-- After a refusal the handler goes on from the same disk. -/
theorem completes_refused {step : Change} {handle : Fault → Work Fault Unit} {fault : Fault}
    {after : Unit → Disk → Prop} (refused : step.apply disk = .error fault)
    (handled : (handle fault).Completes disk after) :
    ((perform step).orElse handle).Completes disk after := by
  rintro machine rfl noMishaps
  obtain ⟨a, later, ended, none, holds⟩ := handled machine rfl noMishaps
  refine ⟨a, later, ?_, none, holds⟩
  unfold Work.orElse
  rw [perform_of_noMishaps noMishaps, change_of_error refused]
  exact ended

end Work

end AgentFlow
