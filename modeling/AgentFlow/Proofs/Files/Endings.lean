import AgentFlow.Proofs.Files.Outcome

/-!
# One ending, or all of them

Some facts about work speak of the ending with an answer only, and some hold however the work
ends.  Both are outcomes of a special kind, with the rules of `Work.Leads`.
-/

namespace AgentFlow

/-! ## Work that comes to its end -/

/-- Outcomes that say nothing of work that fails or is stopped. -/
def Outcomes.atEnd {ε α : Type} (done : α → Disk → Prop) : Outcomes ε α :=
  ⟨done, fun _ _ => True, fun _ => True⟩

namespace Work

variable {ε ε' α β : Type} {disk : Disk} {done : β → Disk → Prop}

theorem Leads.atEnd {work : Work ε α} {after : Outcomes ε α} (leads : work.Leads disk after) :
    work.Leads disk (Outcomes.atEnd after.done) :=
  leads.mono (fun _ _ => id) (fun _ _ _ => trivial) fun _ _ => trivial

theorem Leads.ended {work : Work ε β} (leads : work.Leads disk (Outcomes.atEnd done))
    {machine : Machine} (atDisk : machine.disk = disk) {answer : β}
    (ended : (work machine).1 = .ok answer) : done answer (work machine).2.disk := by
  have holds := leads machine atDisk
  rwa [ended] at holds

theorem Leads.weaken {work : Work ε β} {weaker : β → Disk → Prop}
    (leads : work.Leads disk (Outcomes.atEnd done))
    (weakens : ∀ b later, done b later → weaker b later) :
    work.Leads disk (Outcomes.atEnd weaker) :=
  leads.mono weakens (fun _ _ => id) fun _ => id

theorem Leads.bind_atEnd {first : Work ε α} {next : α → Work ε β} {middle : α → Disk → Prop}
    (leads : first.Leads disk (Outcomes.atEnd middle))
    (goesOn : ∀ a later, middle a later → (next a).Leads later (Outcomes.atEnd done)) :
    (first >>= next).Leads disk (Outcomes.atEnd done) :=
  leads.bind goesOn (fun _ _ _ => trivial) fun _ _ => trivial

theorem Leads.mapFault_atEnd {work : Work ε β} {change : ε → ε'}
    (leads : work.Leads disk (Outcomes.atEnd done)) :
    (work.mapFault change).Leads disk (Outcomes.atEnd done) :=
  .mapFault leads

theorem leads_pure_atEnd {b : β} (holds : done b disk) :
    (pure b : Work ε β).Leads disk (Outcomes.atEnd done) :=
  leads_pure holds

theorem leads_ask_atEnd {question : Disk → Except ε α} {next : α → Work ε β}
    (goesOn : ∀ a, question disk = .ok a → (next a).Leads disk (Outcomes.atEnd done)) :
    (ask question >>= next).Leads disk (Outcomes.atEnd done) :=
  leads_ask_bind goesOn fun _ _ => trivial

theorem leads_ofExcept_atEnd {result : Except ε α} {next : α → Work ε β}
    (goesOn : ∀ a, result = .ok a → (next a).Leads disk (Outcomes.atEnd done)) :
    (ofExcept result >>= next).Leads disk (Outcomes.atEnd done) :=
  leads_ofExcept_bind goesOn fun _ _ => trivial

end Work

/-! ## Work however it ends -/

/-- The outcomes of which all are the same. -/
def Outcomes.anyhow {ε α : Type} (always : Disk → Prop) : Outcomes ε α :=
  ⟨fun _ => always, fun _ => always, always⟩

theorem Work.Leads.anyhow {ε α : Type} {work : Work ε α} {disk : Disk} {always : Disk → Prop}
    (leads : work.Leads disk (Outcomes.anyhow always)) (machine : Machine)
    (atDisk : machine.disk = disk) : always (work machine).2.disk := by
  have holds := leads machine atDisk
  rcases ended : work machine with ⟨(e | _) | a, last⟩
  all_goals
    rw [ended] at holds
    exact holds

theorem Work.leads_pure_anyhow {ε α : Type} {a : α} {disk : Disk} {always : Disk → Prop}
    (holds : always disk) : (pure a : Work ε α).Leads disk (Outcomes.anyhow always) :=
  Work.leads_pure holds

/-- What holds however the first part ends may be used by the rest. -/
theorem Work.Leads.bind_anyhow {ε α β : Type} {work : Work ε α} {next : α → Work ε β}
    {disk : Disk} {always : Disk → Prop} (leads : work.Leads disk (Outcomes.anyhow always))
    (goesOn : ∀ a later, always later → (next a).Leads later (Outcomes.anyhow always)) :
    (work >>= next).Leads disk (Outcomes.anyhow always) :=
  leads.bind goesOn (fun _ _ => id) fun _ => id

end AgentFlow
