import AgentFlow.Proofs.Agent.Shadowing
import AgentFlow.Proofs.Agent.Surfacing

/-!
# The guards of a promotion

A promotion asks all its questions before its first change, in a fixed order.  The first answer
that does not let it go on decides how it ends, and then nothing is changed.
-/

namespace AgentFlow

open AgentFlow.Text

/-! ## Work that says something of its errors -/

namespace Work

variable {ε ε' α β : Type} {disk : Disk} {told : ε → Prop}

end Work

namespace Store

variable {store : Store} {before : Disk} {today : Date} {name target : String}
  {newName : Option String} {machine : Machine} {table : Registry} {error : Error}
  {promotion : Promotion}

/-! ## What is asked -/

/-- The temporary agent of a promotion is there, and its new name can be that of an agent. -/
structure Finds (store : Store) (name target : String) (before : Disk) : Prop where
  targetIsIdentifier : isIdentifier target = true
  nameIsIdentifier : isIdentifier name = true
  isFile : before.isFile (store.temporaryPath name) = .ok true

/-- The temporary agent is there, and neither the disk nor the registry knows its new name. -/
structure Allows (store : Store) (name target : String) (before : Disk) (table : Registry) : Prop
    extends store.Finds name target before where
  loaded : store.load before = .ok table
  free : before.pathExists (store.definedPath target) = .ok false
  absent : table.contains target = false

theorem Finds.hasTemporary (finds : store.Finds name target before) :
    store.hasTemporary before name = .ok true := by
  unfold Store.hasTemporary
  rw [if_pos finds.nameIsIdentifier, finds.isFile]
  rfl

theorem hasTemporary_of_absent
    (absent : isIdentifier name = false ∨ before.isFile (store.temporaryPath name) = .ok false) :
    store.hasTemporary before name = .ok false := by
  unfold hasTemporary
  split
  · rename_i identifier
    rw [identifier] at absent
    rw [absent.resolve_left nofun]
    rfl
  · rfl

/-! ## What is decided -/

theorem intend_of_unasked {fault : FileFault}
    (identifier : isIdentifier (promotedName name newName) = true)
    (nameIsIdentifier : isIdentifier name = true)
    (unasked : before.isFile (store.temporaryPath name) = .error fault) :
    store.intend today name newName before = .error (.unexpected (.file fault)) := by
  have failed : store.hasTemporary before name = .error (.unexpected (.file fault)) := by
    unfold hasTemporary
    rw [if_pos nameIsIdentifier, unasked]
    rfl
  unfold intend
  simp only [identifier, failed]
  rfl

/-- A promotion that is begun is done or ends early. -/
theorem commit_ne_false (store : Store) (name : String) (promotion : Promotion)
    (machine : Machine) : (store.commit name promotion machine).1 ≠ .ok false := by
  rcases ended : store.commit name promotion machine with ⟨halt | done, last⟩
  · nofun
  · rw [commit_eq] at ended
    obtain ⟨_, _, _, completed⟩ := Work.bind_eq_ok ended
    rw [eq_true_of_complete completed]
    nofun

end Store

end AgentFlow
