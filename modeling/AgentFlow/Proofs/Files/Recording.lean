import AgentFlow.Proofs.Files.Work

/-!
# Changes that are recorded

A machine records the changes that are made on it.  Work only adds to the record, so what a
part of some work has changed is still recorded at its end.  A file that is written is put in
its place by a change that is recorded.
-/

namespace AgentFlow

namespace Work

variable {ε ε' α β : Type}

/-- Nothing that is recorded is lost. -/
def Retains (work : Work ε α) : Prop :=
  ∀ machine : Machine, machine.changes ⊆ (work machine).2.changes

theorem Retains.bind {first : Work ε α} {next : α → Work ε β} (retains : first.Retains)
    (goesOn : ∀ a, (next a).Retains) : (first >>= next).Retains := by
  intro machine
  have before := retains machine
  rcases ended : first machine with ⟨halt | a, later⟩
  · rw [ended] at before
    rwa [bind_of_error ended]
  · rw [ended] at before
    rw [bind_of_ok ended]
    exact List.Subset.trans before (goesOn a later)

theorem Retains.mapFault {work : Work ε α} {change : ε → ε'} (retains : work.Retains) :
    (work.mapFault change).Retains := by
  intro machine
  have before := retains machine
  unfold Work.mapFault
  rcases ended : work machine with ⟨(e | _) | a, later⟩
  all_goals
    rw [ended] at before
    exact before

theorem Retains.orElse {work : Work ε α} {handle : ε → Work ε α} (retains : work.Retains)
    (handled : ∀ e, (handle e).Retains) : (work.orElse handle).Retains := by
  intro machine
  have before := retains machine
  unfold Work.orElse
  rcases ended : work machine with ⟨(e | _) | a, later⟩
  · rw [ended] at before
    exact List.Subset.trans before (handled e later)
  · rw [ended] at before
    exact before
  · rw [ended] at before
    exact before

/-- Work that gives an answer has come to the end of each of its parts. -/
theorem bind_eq_ok {first : Work ε α} {next : α → Work ε β} {machine last : Machine} {b : β}
    (ended : (first >>= next) machine = (.ok b, last)) :
    ∃ a later, first machine = (.ok a, later) ∧ next a later = (.ok b, last) := by
  rcases begun : first machine with ⟨halt | a, later⟩
  · rw [bind_of_error begun] at ended
    cases ended
  · rw [bind_of_ok begun] at ended
    exact ⟨a, later, rfl, ended⟩

end Work

end AgentFlow
