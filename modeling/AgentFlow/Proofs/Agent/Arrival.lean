import AgentFlow.Proofs.Agent.Calls

/-!
# Definitions that arrive are registered

A definition that was moved to the defined agents is registered, or the journal tells of
it, as long as no promotion takes the place of a journal that is still needed.  So after
a recovery that comes to its end the definition is registered.
-/

namespace AgentFlow

open AgentFlow.Text

namespace Layout

variable {l : Layout} {x y : l.Situation} {name : String}

/-- An agent is registered, or its definition has arrived and the journal tells of it. -/
def Accounted (name : String) (x : l.Situation) : Prop :=
  (∃ entry, l.Lists x.disk name entry) ∨
    ∃ promotion, x.phase = .arrived promotion ∧ promotion.entry.agentName = name

/-- The journal is not needed: what it tells of has not arrived, or is registered. -/
def Settled (x : l.Situation) : Prop :=
  ∀ promotion, x.phase = .arrived promotion →
    ∃ entry, l.Lists x.disk promotion.entry.agentName entry

theorem Step.accounted (step : l.Step Settled x y) (accounted : Accounted name x) :
    Accounted name y := by
  cases step with
  | aside phase spares =>
      rw [Accounted, phase]
      exact accounted.imp_left fun ⟨entry, listed⟩ => ⟨entry, (spares.lists nofun).mpr listed⟩
  | begins settled phase _ _ spares =>
      have stays {entry : Entry} (listed : l.Lists x.disk name entry) : Accounted name y :=
        .inl ⟨entry, (spares.lists l.registryPlace_ne_journalPlace).mpr listed⟩
      rcases accounted with ⟨entry, listed⟩ | ⟨promotion, arrived, rfl⟩
      · exact stays listed
      · obtain ⟨entry, listed⟩ := settled promotion arrived
        exact stays listed
  | moves before phase spares =>
      have belongs := (Situation.Pending.journals (.inl before)).belongs
      rcases accounted with ⟨entry, listed⟩ | ⟨promotion, arrived, _⟩
      · exact .inl ⟨entry, (spares.lists belongs.registry_untouched).mpr listed⟩
      · rw [before] at arrived
        cases arrived
  | enrolls before phase loaded saves =>
      rcases accounted with ⟨entry, listed⟩ | ⟨promotion, arrived, named⟩
      · simp only [Accounted, saves.lists_iff loaded]
        left
        split
        · exact ⟨_, rfl⟩
        · exact ⟨entry, listed⟩
      · exact .inr ⟨promotion, phase.trans (before.symm.trans arrived), named⟩
  | ends before phase listed spares =>
      have stays {entry : Entry} (listed : l.Lists x.disk name entry) : Accounted name y :=
        .inl ⟨entry, (spares.lists l.registryPlace_ne_journalPlace).mpr listed⟩
      rcases accounted with ⟨entry, listed⟩ | ⟨promotion, arrived, rfl⟩
      · exact stays listed
      · rw [before] at arrived
        cases arrived
        exact stays listed

theorem Step.arrival {may : l.Situation → Prop} (step : l.Step may x y)
    (identifier : isIdentifier name = true)
    (holds : l.Holds y.disk (l.store.definedPath name)) :
    l.Holds x.disk (l.store.definedPath name) ∨ Accounted name y := by
  have lasting : l.Lasting (l.place (l.store.definedPath name)) := l.lasting_definition identifier
  cases step with
  | aside _ spares => exact .inl ((spares.holds lasting nofun).mp holds)
  | begins _ _ _ _ spares =>
      exact .inl ((spares.holds lasting
        (Ne.symm (l.journalPlace_ne_definition identifier))).mp holds)
  | @moves promotion before phase spares =>
      by_cases route : l.Route promotion (l.place (l.store.definedPath name))
      · have standing := y.stands.phase
        rw [phase] at standing
        obtain ⟨journals, _, _, leaves⟩ := standing
        have same : l.place (l.store.definedPath name) = l.place promotion.target := by
          rcases route with atSource | atTarget
          · rw [Holds, atSource] at holds
            exact atSource.trans (leaves holds)
          · exact atTarget
        rw [journals.belongs.target] at same
        have named := Disk.destination_definition_inj identifier journals.belongs.identifier same
        exact .inr (.inr ⟨promotion, phase, named.symm⟩)
      · exact .inl ((spares.holds lasting route).mp holds)
  | enrolls _ _ _ saves =>
      exact .inl ((saves.spares.holds lasting (l.definedApart name identifier)).mp holds)
  | ends _ _ _ spares =>
      exact .inl ((spares.holds lasting
        (Ne.symm (l.journalPlace_ne_definition identifier))).mp holds)

theorem Steps.accounted (steps : l.Steps Settled x y) (accounted : Accounted name x) :
    Accounted name y := by
  induction steps with
  | refl => exact accounted
  | tail _ step induction => exact step.accounted induction

theorem Steps.arrival (steps : l.Steps Settled x y) (identifier : isIdentifier name = true)
    (holds : l.Holds y.disk (l.store.definedPath name)) :
    l.Holds x.disk (l.store.definedPath name) ∨ Accounted name y := by
  induction steps with
  | refl => exact .inl holds
  | tail _ step induction =>
      rcases step.arrival identifier holds with before | accounted
      · exact (induction before).imp_right step.accounted
      · exact .inr accounted

/-! ## Calls -/

theorem Counts.accounted {other : String} (counts : l.Counts other x y)
    (accounted : Accounted name x) : Accounted name y := by
  obtain ⟨phase, table, entry, loaded, _, saves⟩ := counts
  rw [Accounted, phase]
  refine accounted.imp_left ?_
  rintro ⟨old, listed⟩
  simp only [saves.lists_iff loaded]
  split
  · exact ⟨_, rfl⟩
  · exact ⟨old, listed⟩

theorem Serves.accounted {counted : Option String} (serves : Serves Settled x counted y)
    (accounted : Accounted name x) : Accounted name y := by
  cases serves with
  | steps steps => exact Steps.accounted steps accounted
  | counts counts => exact counts.accounted accounted
  | ignored _ => exact accounted

theorem Serves.arrival {counted : Option String} (serves : Serves Settled x counted y)
    (identifier : isIdentifier name = true)
    (holds : l.Holds y.disk (l.store.definedPath name)) :
    l.Holds x.disk (l.store.definedPath name) ∨ Accounted name y := by
  cases serves with
  | steps steps => exact Steps.arrival steps identifier holds
  | counts counts =>
      obtain ⟨_, _, _, _, _, saves⟩ := counts
      exact .inl ((saves.spares.holds (l.lasting_definition identifier)
        (l.definedApart name identifier)).mp holds)
  | ignored _ => exact .inl holds

end Layout

end AgentFlow
