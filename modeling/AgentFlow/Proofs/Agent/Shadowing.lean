import AgentFlow.Proofs.Agent.Resolution

/-!
# Operations and the tiers

A promotion takes a definition out of the temporary tier and puts it into the defined one, a
deletion takes one out, and nothing else that a store does touches a definition.  So what an
operation changes about resolving is told by the two names of a promotion, or by the one of a
deletion.  All other names are claimed by the tier that claimed them before.
-/

namespace AgentFlow

open AgentFlow.Text

namespace Store

variable {store : Store} {disk between later : Disk} {name target : String}
  {builtins : List Value} {promotion : Promotion}

theorem distinct_of_current (sameCurrent : later.current = disk.current)
    (distinct : store.Distinct disk) : store.Distinct later := by
  obtain ⟨directories, defined, temporary⟩ := distinct
  simp only [← Disk.destination_of_current sameCurrent] at directories defined temporary
  exact ⟨directories, defined, temporary⟩

/-- A definition among the temporary agents is none among the defined ones. -/
theorem temporary_ne_defined
    (directories : disk.destination store.agentsDir ≠ disk.destination store.temporaryDir)
    {other : String} (identifier : isIdentifier name = true)
    (otherIdentifier : isIdentifier other = true) :
    disk.destination (store.temporaryPath name) ≠ disk.destination (store.definedPath other) := by
  intro same
  rw [temporaryPath, definedPath, Disk.destination_definition identifier,
    Disk.destination_definition otherIdentifier] at same
  exact directories (List.append_inj_left' same rfl).symm

theorem Distinct.apart (distinct : store.Distinct disk) {other : String}
    (identifier : isIdentifier name = true) (otherIdentifier : isIdentifier other = true) :
    disk.destination (store.temporaryPath name) ≠ disk.destination (store.definedPath other) :=
  temporary_ne_defined distinct.directories identifier otherIdentifier

/-! ## Promotions that are done -/

/-- A definition was among the temporary agents, and is among the defined ones now. -/
structure Carried (store : Store) (name target : String) (disk later : Disk) : Prop where
  leaves : Disk.Leaves (fun location => store.Aside disk location ∨
    location = disk.destination (store.temporaryPath name) ∨
      location = disk.destination (store.definedPath target)) disk later
  reaches : later.Reaches (store.definedPath target)
  arrived : ∃ content,
    later.node? (disk.destination (store.definedPath target)) = some (.file content)
  gone : ∀ content,
    later.node? (disk.destination (store.temporaryPath name)) ≠ some (.file content)

theorem Carried.left (carried : store.Carried name target disk between)
    (nameIdentifier : isIdentifier name = true) (targetIdentifier : isIdentifier target = true)
    (leaves : Disk.Leaves (store.Aside between) between later) :
    store.Carried name target disk later := by
  rw [aside_of_current carried.leaves.keeps.current] at leaves
  obtain ⟨content, arrived⟩ := carried.arrived
  refine ⟨carried.leaves.trans (leaves.mono fun _ => .inl),
    leaves.keeps.reaches carried.reaches, ⟨content, ?_⟩, fun content still => ?_⟩
  · exact (leaves.file _ _ fun aside => (aside target targetIdentifier).1 rfl).mpr arrived
  · exact carried.gone content
      ((leaves.file _ _ fun aside => (aside name nameIdentifier).2 rfl).mp still)

/-- What is left to be done for a promotion once its journal is written. -/
def complete (store : Store) (name : String) (promotion : Promotion) : Work Error Bool := do
  store.applyPromotion promotion
  store.clearJournal
  Work.tell ⟨.info, logger,
    "Promoted temp agent '" ++ name ++ "' to defined agent '" ++
      promotion.entry.agentName ++ "'"⟩
  return true

theorem commit_eq (store : Store) (name : String) (promotion : Promotion) :
    store.commit name promotion =
      store.writeJournal promotion >>= fun _ => store.complete name promotion := rfl

theorem eq_true_of_complete {machine last : Machine} {done : Bool}
    (ended : store.complete name promotion machine = (.ok done, last)) : done = true := by
  obtain ⟨_, applied, _, ended⟩ := Work.bind_eq_ok ended
  obtain ⟨_, cleared, _, ended⟩ := Work.bind_eq_ok ended
  obtain ⟨_, told, _, ended⟩ := Work.bind_eq_ok ended
  exact (Except.ok.inj (congrArg Prod.fst ended)).symm

/-- After a promotion the definition is found where it went, and nowhere else. -/
theorem Carried.resolves (carried : store.Carried name target disk later)
    (distinct : store.Distinct disk) (visible : store.Visible disk)
    (nameIdentifier : isIdentifier name = true) (targetIdentifier : isIdentifier target = true)
    (isFile : disk.isFile (store.temporaryPath name) = .ok true) :
    (isBuiltin builtins target = false → (store.resolves builtins later target).result =
      .ok (some ⟨target, .defined, some (store.definedPath target)⟩)) ∧
    (name ≠ target → store.resolves builtins later name =
      Resolver.tryResolve [.builtin builtins, .defined store.agentsDir] disk name) ∧
    ∀ other, other ≠ name → other ≠ target →
      store.resolves builtins later other = store.resolves builtins disk other := by
  have sameCurrent := carried.leaves.keeps.current
  -- A definition of another name is at neither end of the way.
  have untouched {other : String} (identifier : isIdentifier other = true)
      (notTarget : other ≠ target) :
      ¬(store.Aside disk (disk.destination (store.definedPath other)) ∨
        disk.destination (store.definedPath other) =
          disk.destination (store.temporaryPath name) ∨
        disk.destination (store.definedPath other) =
          disk.destination (store.definedPath target)) := by
    rintro (aside | source | same)
    · exact (aside other identifier).1 rfl
    · exact distinct.apart nameIdentifier identifier source.symm
    · exact notTarget (Disk.destination_definition_inj identifier targetIdentifier same)
  refine ⟨fun notBuiltin => ?_, fun differs => ?_, fun other notName notTarget => ?_⟩
  · refine resolves_defined targetIdentifier notBuiltin (Disk.isFile_eq_true_iff.mpr
      ⟨carried.reaches, ?_⟩)
    rw [Disk.destination_of_current sameCurrent]
    exact carried.arrived
  · have short : IsShort name := by
      by_contra long
      exact isFile_ne_true_of_long nameIdentifier long isFile
    refine resolves_without_temporary (fun identifier => ?_) fun _ => ?_
    · exact carried.leaves.isFile_of_short (untouched identifier differs)
        (visible.defined name identifier)
        (definition_parts_short visible identifier short).1
    · have reaches := carried.leaves.keeps.reaches (Disk.isFile_eq_true_iff.mp isFile).1
      rw [Disk.isFile, Disk.ask_of_reaches reaches, Disk.destination_of_current sameCurrent]
      cases node : later.node? (disk.destination (store.temporaryPath name)) with
      | none => rfl
      | some kind =>
          cases kind with
          | directory => rfl
          | file content => exact absurd node (carried.gone content)
  · refine visible.resolves carried.leaves (fun identifier => untouched identifier notTarget)
      (fun identifier => ?_) (.inr (lends_of_isFile nameIdentifier isFile))
    rintro (aside | same | same)
    · exact (aside other identifier).2 rfl
    · exact notName (Disk.destination_definition_inj identifier nameIdentifier same)
    · exact distinct.apart identifier targetIdentifier same

/-- One temporary agent, and nothing else. -/
def soleDisk : Disk := temporaryDisk [(["temp", "a.md"], .file (.text "A"))]

def longName : String := String.ofList (List.replicate 256 'l')

theorem isIdentifier_longName : isIdentifier longName = true := by
  unfold isIdentifier longName
  rw [String.toList_ofList]
  decide +kernel

end Store

end AgentFlow
