import AgentFlow.Proofs.Result

/-!
# First faults

A traversal that stops at the first fault reports exactly that fault.  What is a fault
of an item may depend on the items before it, and the traversal knows these by a state
that it carries along.
-/

namespace AgentFlow

variable {α β ε σ : Type}

/-- The first of the items with a fault, after some items without. -/
inductive FirstFault (fault : List α → α → ε → Prop) : List α → List α → α → ε → Prop where
  | here {before rest : List α} {item : α} {e : ε} :
      fault before item e → FirstFault fault before (item :: rest) item e
  | later {before rest : List α} {first item : α} {e : ε} :
      (∀ other, ¬fault before first other) →
      FirstFault fault (before ++ [first]) rest item e →
      FirstFault fault before (first :: rest) item e

theorem FirstFault.mem {fault : List α → α → ε → Prop} {before items : List α} {item : α} {e : ε}
    (first : FirstFault fault before items item e) : item ∈ items := by
  induction first with
  | here _ => exact List.mem_cons_self
  | later _ _ induction => exact List.mem_cons_of_mem _ induction

/-- The item is at fault after the items that come before it. -/
theorem FirstFault.exists_fault {fault : List α → α → ε → Prop} {before items : List α} {item : α}
    {e : ε} (first : FirstFault fault before items item e) :
    ∃ passed, fault (before ++ passed) item e := by
  induction first with
  | here faulty => exact ⟨[], by rwa [List.append_nil]⟩
  | @later before rest passedFirst item e _ _ induction =>
      obtain ⟨passed, faulty⟩ := induction
      exact ⟨passedFirst :: passed, by rwa [← List.append_cons] at faulty⟩

/-- A traversal with a state, which fails at an item with a fault and goes on from any other
item.  The relation says which states it may carry after some items. -/
structure StopsAtFault (fault : List α → α → ε → Prop) (carried : List α → σ → Prop)
    (run : σ → List α → Except ε β) : Prop where
  nil : ∀ state e, run state [] ≠ .error e
  faulty : ∀ {before state item e}, carried before state → fault before item e →
    ∀ rest, run state (item :: rest) = .error e
  passes : ∀ {before state item}, carried before state → (∀ e, ¬fault before item e) →
    ∃ next, carried (before ++ [item]) next ∧
      ∀ rest e, run state (item :: rest) = .error e ↔ run next rest = .error e

theorem StopsAtFault.eq_error_iff {fault : List α → α → ε → Prop} {carried : List α → σ → Prop}
    {run : σ → List α → Except ε β} (stops : StopsAtFault fault carried run)
    {before : List α} (state : σ) (carries : carried before state) (items : List α) (e : ε) :
    run state items = .error e ↔ ∃ item, FirstFault fault before items item e := by
  induction items generalizing before state with
  | nil =>
      constructor
      · intro failed
        exact absurd failed (stops.nil state e)
      · rintro ⟨item, first⟩
        cases first
  | cons item rest induction =>
      by_cases isFaulty : ∃ cause, fault before item cause
      · obtain ⟨cause, faulty⟩ := isFaulty
        have failed := stops.faulty carries faulty rest
        constructor
        · intro failedAlike
          cases failed.symm.trans failedAlike
          exact ⟨item, .here faulty⟩
        · rintro ⟨other, first⟩
          cases first with
          | here faultyAlike => exact stops.faulty carries faultyAlike rest
          | later faultless _ => exact absurd faulty (faultless cause)
      · have faultless := not_exists.mp isFaulty
        obtain ⟨next, carriesNext, sameFailure⟩ := stops.passes carries faultless
        rw [sameFailure, induction next carriesNext]
        constructor
        · rintro ⟨other, first⟩
          exact ⟨other, .later faultless first⟩
        · rintro ⟨other, first⟩
          cases first with
          | here faulty => exact absurd faulty (faultless e)
          | later _ first => exact ⟨other, first⟩

end AgentFlow
