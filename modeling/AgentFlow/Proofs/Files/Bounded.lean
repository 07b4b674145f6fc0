import AgentFlow.Proofs.Files.Progress

/-!
# How much work puts on the disk

Every change puts at most one node on the disk, so how many nodes some work adds is bounded by
the number of its changes.  Without mishaps work is never stopped.
-/

namespace AgentFlow

namespace Disk

variable {disk later : Disk}

theorem length_moveTree (disk : Disk) (source target : Location) :
    (disk.moveTree source target).nodes.length ≤ disk.nodes.length := by
  simp only [moveTree, List.length_map]
  exact List.length_filter_le _ _

theorem length_moveNode {source target : Location}
    (moved : disk.moveNode source target = .ok later) :
    later.nodes.length ≤ disk.nodes.length + 1 := by
  unfold moveNode at moved
  split at moved
  · cases moved
  · split at moved
    · cases moved
      exact Nat.le_succ _
    · split at moved
      · cases moved
      · cases moved
        exact (length_put _ _ _).trans (Nat.succ_le_succ (length_erase disk source))
      · cases moved
      · split at moved
        · cases moved
        · split at moved
          · cases moved
          · cases moved
            exact (length_moveTree disk source target).trans (Nat.le_succ _)

theorem length_of_apply {step : Change} (applied : step.apply disk = .ok later) :
    later.nodes.length ≤ disk.nodes.length + 1 := by
  cases step with
  | makeDirectory path =>
      obtain ⟨_, _, rfl⟩ := Change.apply_makeDirectory_eq_ok_iff.mp applied
      exact disk.length_put _ _
  | createFile path =>
      obtain ⟨_, _, rfl⟩ := Change.apply_createFile_eq_ok_iff.mp applied
      exact disk.length_put _ _
  | writeFile path text =>
      obtain ⟨_, _, _, rfl⟩ := Change.apply_writeFile_eq_ok_iff.mp applied
      exact disk.length_put _ _
  | syncFile path =>
      obtain ⟨_, _, _, rfl⟩ := Change.apply_syncFile_eq_ok_iff.mp applied
      exact Nat.le_succ _
  | replace source target =>
      obtain ⟨_, applied⟩ := place_bind_eq_ok_iff.mp applied
      obtain ⟨_, applied⟩ := place_bind_eq_ok_iff.mp applied
      split at applied
      · exact length_moveNode (mapError_eq_ok_iff.mp applied)
      · cases applied
  | remove path =>
      obtain ⟨_, _, _, rfl⟩ := Change.apply_remove_eq_ok_iff.mp applied
      exact (disk.length_erase _).trans (Nat.le_succ _)

end Disk

namespace Work

variable {ε ε' α β : Type} {growth more : Nat}

/-- Without mishaps the work is not stopped, and adds no more nodes than some number. -/
def Bounded (work : Work ε α) (growth : Nat) : Prop :=
  ∀ machine : Machine, machine.mishaps = [] →
    (work machine).2.mishaps = [] ∧
      (work machine).2.disk.nodes.length ≤ machine.disk.nodes.length + growth ∧
        (work machine).1 ≠ .error .stopped

theorem Bounded.mono {work : Work ε α} (bounded : work.Bounded growth) (fewer : growth ≤ more) :
    work.Bounded more := by
  intro machine noMishaps
  obtain ⟨calm, few, goesOn⟩ := bounded machine noMishaps
  exact ⟨calm, by omega, goesOn⟩

theorem bounded_pure (a : α) : (pure a : Work ε α).Bounded 0 :=
  fun _ noMishaps => ⟨noMishaps, Nat.le_refl _, nofun⟩

theorem bounded_fail (e : ε) : (fail e : Work ε α).Bounded 0 :=
  fun _ noMishaps => ⟨noMishaps, Nat.le_refl _, nofun⟩

theorem Bounded.bind {first : Work ε α} {next : α → Work ε β} (bounded : first.Bounded growth)
    (goesOn : ∀ a, (next a).Bounded more) : (first >>= next).Bounded (growth + more) := by
  intro machine noMishaps
  obtain ⟨calm, few, unstopped⟩ := bounded machine noMishaps
  rcases ended : first machine with ⟨halt | a, later⟩
  · rw [ended] at calm few unstopped
    rw [bind_of_error ended]
    refine ⟨calm, by omega, fun stopped => unstopped ?_⟩
    cases stopped
    rfl
  · rw [ended] at calm few
    rw [bind_of_ok ended]
    obtain ⟨stillCalm, stillFew, goesOn⟩ := goesOn a later calm
    dsimp only at few
    exact ⟨stillCalm, by omega, goesOn⟩

theorem Bounded.mapFault {work : Work ε α} {change : ε → ε'} (bounded : work.Bounded growth) :
    (work.mapFault change).Bounded growth := by
  intro machine noMishaps
  obtain ⟨calm, few, unstopped⟩ := bounded machine noMishaps
  unfold Work.mapFault
  rcases ended : work machine with ⟨(e | _) | a, later⟩
  · rw [ended] at calm few
    exact ⟨calm, few, nofun⟩
  · rw [ended] at unstopped
    exact absurd rfl unstopped
  · rw [ended] at calm few
    exact ⟨calm, few, nofun⟩

theorem Bounded.orElse {work : Work ε α} {handle : ε → Work ε α} (bounded : work.Bounded growth)
    (handled : ∀ e, (handle e).Bounded more) : (work.orElse handle).Bounded (growth + more) := by
  intro machine noMishaps
  obtain ⟨calm, few, unstopped⟩ := bounded machine noMishaps
  unfold Work.orElse
  rcases ended : work machine with ⟨(e | _) | a, later⟩
  · rw [ended] at calm few
    obtain ⟨stillCalm, stillFew, goesOn⟩ := handled e later calm
    dsimp only at few ⊢
    exact ⟨stillCalm, by omega, goesOn⟩
  · rw [ended] at unstopped
    exact absurd rfl unstopped
  · rw [ended] at calm few
    dsimp only at few ⊢
    exact ⟨calm, by omega, nofun⟩

theorem bounded_ofExcept (result : Except ε α) : (ofExcept result).Bounded 0 := by
  cases result with
  | error e => exact bounded_fail e
  | ok a => exact bounded_pure a

theorem bounded_ask (question : Disk → Except ε α) : (ask question).Bounded 0 :=
  fun machine => bounded_ofExcept (question machine.disk) machine

theorem bounded_disk : (Work.disk : Work ε Disk).Bounded 0 :=
  fun _ noMishaps => ⟨noMishaps, Nat.le_refl _, nofun⟩

theorem bounded_tell (record : Log.Record) : (tell record : Work ε Unit).Bounded 0 :=
  fun _ noMishaps => ⟨noMishaps, Nat.le_refl _, nofun⟩

theorem bounded_change (step : Change) : (change step).Bounded 1 := by
  intro machine noMishaps
  cases applied : step.apply machine.disk with
  | error fault =>
      rw [change_of_error applied]
      exact ⟨noMishaps, Nat.le_succ _, nofun⟩
  | ok later =>
      rw [change_of_ok applied]
      exact ⟨noMishaps, Disk.length_of_apply applied, nofun⟩

theorem bounded_perform (step : Change) : (perform step).Bounded 1 := by
  intro machine noMishaps
  rw [perform_of_noMishaps noMishaps]
  exact bounded_change step machine noMishaps

/-! ## Files -/

theorem bounded_acceptDirectory (path : Path) (fault : Fault) :
    (acceptDirectory path fault).Bounded 0 := by
  unfold acceptDirectory
  split
  · show Bounded _ (0 + 0)
    refine (bounded_ask _).bind fun isDirectory => ?_
    split
    · exact bounded_pure ()
    · exact bounded_fail _
  · exact bounded_fail _

theorem bounded_ensureDirectory (depth : Nat) (path : Path) :
    (ensureDirectory depth path).Bounded (2 * depth + 1) := by
  have makes (path : Path) :
      ((perform (.makeDirectory path)).orElse (acceptDirectory path)).Bounded 1 :=
    (bounded_perform _).orElse (bounded_acceptDirectory path)
  induction depth generalizing path with
  | zero => exact makes path
  | succ depth induction =>
      have fewer : 1 + (2 * depth + 2) ≤ 2 * (depth + 1) + 1 := by omega
      refine Bounded.mono ((bounded_perform _).orElse fun fault => ?_) fewer
      split
      · exact (induction path.parent).bind fun _ => makes path
      · split
        · exact (bounded_fail fault).mono (Nat.zero_le _)
        · exact (bounded_acceptDirectory path fault).mono (Nat.zero_le _)

theorem bounded_cleanUp (temporary : Path) (fault : Fault) :
    (cleanUp temporary fault).Bounded 1 := by
  show Bounded _ (1 + 0 + 0)
  refine Bounded.bind ((bounded_change _).orElse fun removal => ?_) fun _ => bounded_fail fault
  split
  · exact bounded_pure ()
  · exact bounded_fail removal

theorem bounded_atomicWrite (path : Path) (text : String) :
    (atomicWrite path text).Bounded (2 * path.parts.length + 6) := by
  have fewer : 2 * path.parts.length + 1 + (0 + (1 + (1 + (1 + 1) + 1))) ≤
      2 * path.parts.length + 6 := by omega
  refine Bounded.mono ((bounded_ensureDirectory _ _).bind fun _ => bounded_disk.bind fun disk =>
    (bounded_perform _).bind fun _ => Bounded.orElse ?_ (bounded_cleanUp _)) fewer
  exact (bounded_perform _).bind fun _ => (bounded_perform _).bind fun _ => bounded_perform _

theorem bounded_moveFile (source target : Path) :
    (moveFile source target).Bounded (2 * target.parts.length + 2) :=
  (bounded_ensureDirectory _ _).bind fun _ => bounded_perform _

theorem bounded_removeIfThere (path : Path) : (removeIfThere path).Bounded 1 := by
  show Bounded _ (1 + 0)
  refine (bounded_perform _).orElse fun fault => ?_
  split
  · exact bounded_pure ()
  · exact bounded_fail fault

/-! ## How work ends that is not stopped -/

/-- Without mishaps work gives an answer or fails, as it does whatever the mishaps. -/
theorem Bounded.ended {work : Work ε α} {outcomes : Outcomes ε α} {machine : Machine}
    (bounded : work.Bounded growth) (leads : work.Leads machine.disk outcomes)
    (noMishaps : machine.mishaps = []) :
    (∃ a, (work machine).1 = .ok a ∧ outcomes.done a (work machine).2.disk) ∨
      ∃ e, (work machine).1 = .error (.failed e) ∧ outcomes.failed e (work machine).2.disk := by
  obtain ⟨_, _, unstopped⟩ := bounded machine noMishaps
  have holds := leads machine rfl
  rcases ended : work machine with ⟨(e | _) | a, later⟩
  · rw [ended] at holds
    exact .inr ⟨e, rfl, holds⟩
  · rw [ended] at unstopped
    exact absurd rfl unstopped
  · rw [ended] at holds
    exact .inl ⟨a, rfl, holds⟩

end Work

end AgentFlow
