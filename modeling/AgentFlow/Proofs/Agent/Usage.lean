import AgentFlow.Proofs.Agent.Calls

/-!
# Uses that are counted

The entry of a journal has the count that its agent was registered with.  As long as no
use of the agent is counted while the journal of its own promotion is there, writing the
entry once more changes nothing, and each count is one more than the one before.
-/

namespace AgentFlow

open AgentFlow.Text

namespace Layout

variable {l : Layout} {may : l.Situation → Prop} {x y : l.Situation} {name : String} {entry : Entry}

/-- What the table may say of an agent in a phase: the agent is not registered before its
definition has arrived, and the entry of a journal that is still there is the one that is
registered. -/
def Allows (l : Layout) (name : String) (disk : Disk) : Phase → Prop
  | .idle => True
  | .waiting promotion => promotion.entry.agentName = name → ∀ entry, ¬l.Lists disk name entry
  | .arrived promotion =>
    promotion.entry.agentName = name → ∀ entry, l.Lists disk name entry → entry = promotion.entry

def Fair (name : String) (x : l.Situation) : Prop := l.Allows name x.disk x.phase

theorem Fair.of_lists_iff (fair : Fair name x) (phase : y.phase = x.phase)
    (same : ∀ entry, l.Lists y.disk name entry ↔ l.Lists x.disk name entry) : Fair name y := by
  have allows : l.Allows name y.disk x.phase ↔ l.Allows name x.disk x.phase := by
    cases x.phase <;> simp only [Allows, same]
  rw [Fair, phase]
  exact allows.mpr fair

/-! ## Steps -/

theorem Step.fair (step : l.Step may x y) (fair : Fair name x) : Fair name y := by
  cases step with
  | aside phase spares => exact fair.of_lists_iff phase fun _ => spares.lists nofun
  | begins _ phase loaded absent spares =>
      rw [Fair, phase]
      rintro rfl entry listed
      rw [spares.lists l.registryPlace_ne_journalPlace] at listed
      obtain ⟨table, loadedAgain, found⟩ := listed
      rw [← Except.ok.inj (loaded.symm.trans loadedAgain)] at found
      rw [Registry.contains, found] at absent
      cases absent
  | moves before phase spares =>
      have belongs := (Situation.Pending.journals (.inl before)).belongs
      rw [Fair, before] at fair
      rw [Fair, phase]
      intro named entry listed
      rw [spares.lists belongs.registry_untouched] at listed
      exact absurd listed (fair named entry)
  | enrolls before phase loaded saves =>
      rw [Fair, phase]
      intro named entry listed
      rwa [saves.lists_iff loaded, if_pos named.symm] at listed
  | ends _ phase _ _ =>
      rw [Fair, phase]
      trivial

/-- No step but that of counting changes an entry. -/
theorem Step.lists (step : l.Step may x y) (fair : Fair name x)
    (listed : l.Lists x.disk name entry) : l.Lists y.disk name entry := by
  cases step with
  | aside _ spares => exact (spares.lists nofun).mpr listed
  | begins _ _ _ _ spares =>
      exact (spares.lists l.registryPlace_ne_journalPlace).mpr listed
  | moves before _ spares =>
      have belongs := (Situation.Pending.journals (.inl before)).belongs
      exact (spares.lists belongs.registry_untouched).mpr listed
  | enrolls before _ loaded saves =>
      rw [saves.lists_iff loaded]
      split
      · rename_i named
        rw [Fair, before] at fair
        exact fair named.symm entry listed
      · exact listed
  | ends _ _ _ spares =>
      exact (spares.lists l.registryPlace_ne_journalPlace).mpr listed

theorem Steps.fair (steps : l.Steps may x y) (fair : Fair name x) : Fair name y := by
  induction steps with
  | refl => exact fair
  | tail _ step induction => exact step.fair induction

theorem Steps.lists (steps : l.Steps may x y) (fair : Fair name x)
    (listed : l.Lists x.disk name entry) : l.Lists y.disk name entry := by
  induction steps with
  | refl => exact listed
  | tail before step induction => exact step.lists (Steps.fair before fair) induction

/-! ## Counting -/

theorem Counts.fair {other : String} (counts : l.Counts other x y)
    (fairly : other = name → ∀ promotion, x.phase = .arrived promotion →
      promotion.entry.agentName ≠ name) (fair : Fair name x) : Fair name y := by
  obtain ⟨phase, table, old, loaded, found, saves⟩ := counts
  by_cases same : other = name
  · have listed : l.Lists x.disk name old := ⟨table, loaded, same ▸ found⟩
    rw [Fair] at fair ⊢
    rw [phase]
    cases atPhase : x.phase with
    | idle => trivial
    | waiting promotion =>
        rw [atPhase] at fair
        exact fun named => absurd listed (fair named old)
    | arrived promotion => exact fun named => absurd named (fairly same promotion atPhase)
  · apply fair.of_lists_iff phase
    intro entry
    rw [saves.lists_iff loaded, if_neg (Ne.symm same)]

theorem Counts.lists {other : String} (counts : l.Counts other x y)
    (listed : l.Lists x.disk name entry) : ∃ later, l.Lists y.disk name later ∧
      later.usageCount = entry.usageCount + if other = name then 1 else 0 := by
  obtain ⟨_, table, old, loaded, found, saves⟩ := counts
  simp only [saves.lists_iff loaded]
  by_cases same : name = other
  · obtain ⟨again, loadedAgain, foundAgain⟩ := listed
    rw [← Except.ok.inj (loaded.symm.trans loadedAgain), same, found] at foundAgain
    cases foundAgain
    exact ⟨_, (if_pos same).mpr rfl, by rw [if_pos same.symm]⟩
  · exact ⟨entry, (if_neg same).mpr listed, by rw [if_neg (Ne.symm same), Int.add_zero]⟩

/-! ## Calls -/

section Serves

variable {counted : Option String}

theorem Serves.fair (serves : Serves may x counted y)
    (fairly : counted = some name → ∀ entry, l.Lists x.disk name entry →
      ∀ promotion, x.phase = .arrived promotion → promotion.entry.agentName ≠ name)
    (fair : Fair name x) : Fair name y := by
  cases serves with
  | steps steps => exact Steps.fair steps fair
  | ignored _ => exact fair
  | @counts other _ counts =>
      refine counts.fair ?_ fair
      rintro rfl promotion arrived
      obtain ⟨_, table, old, loaded, found, _⟩ := counts
      exact fairly rfl old ⟨table, loaded, found⟩ promotion arrived

theorem Serves.lists (serves : Serves may x counted y) (fair : Fair name x)
    (listed : l.Lists x.disk name entry) : ∃ later, l.Lists y.disk name later ∧
      later.usageCount = entry.usageCount + if counted = some name then 1 else 0 := by
  cases serves with
  | steps steps => exact ⟨entry, Steps.lists steps fair listed, Eq.symm (Int.add_zero _)⟩
  | counts counts =>
      simp only [Option.some.injEq]
      exact counts.lists listed
  | ignored unlisted =>
      refine ⟨entry, listed, ?_⟩
      rw [if_neg, Int.add_zero]
      rintro ⟨⟩
      exact unlisted entry listed

end Serves

/-- What a recovery registers is the entry of the journal.  A use that was counted since the
journal was written is lost. -/
theorem lists_of_recovered {promotion : Promotion} {mishaps : List Mishap} {done : Bool}
    {last : Machine} (read : Promotion.read x.disk l.journal = .ok promotion)
    (recovered : l.store.recover ⟨x.disk, mishaps, [], []⟩ = (.ok done, last)) :
    l.Lists last.disk promotion.entry.agentName promotion.entry := by
  have holds := @leads_recover l (fun _ => True) x ⟨x.disk, mishaps, [], []⟩ rfl
  rw [recovered] at holds
  obtain ⟨y, same, ⟨_, registered⟩, _⟩ := holds
  rw [← show y.disk = last.disk from same]
  rcases x.idle_or_pending with idle | ⟨other, pending⟩
  · have standing := x.stands.phase
    rw [idle] at standing
    exact absurd (holds_of_read x.stands.current read) standing
  · rw [Except.ok.inj (read.symm.trans pending.read)]
    exact registered other pending

end Layout

end AgentFlow
