import Mathlib.Data.List.Forall2
import Mathlib.Logic.Basic

/-!
# Results

When a computation that may fail gives an answer, each of its parts has given one.
The lemmas here take such a computation apart.
-/

namespace AgentFlow

variable {ε ε' α β : Type}

theorem bind_eq_ok_iff {result : Except ε α} {next : α → Except ε β} {answer : β} :
    result >>= next = .ok answer ↔
      ∃ first, result = .ok first ∧ next first = .ok answer := by
  cases result with
  | error e =>
      constructor
      · intro equality
        cases equality
      · rintro ⟨first, equality, _⟩
        cases equality
  | ok first =>
      constructor
      · intro equality
        exact ⟨first, rfl, equality⟩
      · rintro ⟨other, equality, answered⟩
        cases equality
        exact answered

theorem bind_eq_error_iff {result : Except ε α} {next : α → Except ε β} {e : ε} :
    result >>= next = .error e ↔
      result = .error e ∨ ∃ first, result = .ok first ∧ next first = .error e := by
  cases result with
  | error cause => simp [bind, Except.bind]
  | ok first => simp [bind, Except.bind]

theorem mapError_eq_ok_iff {change : ε → ε'} {result : Except ε α} {answer : α} :
    result.mapError change = .ok answer ↔ result = .ok answer := by
  cases result with
  | error e =>
      constructor <;> intro equality <;> cases equality
  | ok first =>
      constructor <;> intro equality <;> cases equality <;> rfl

theorem mapError_eq_error_iff {change : ε → ε'} {result : Except ε α} {e : ε'} :
    result.mapError change = .error e ↔
      ∃ cause, result = .error cause ∧ change cause = e := by
  cases result with
  | error cause =>
      constructor
      · intro changed
        cases changed
        exact ⟨cause, rfl, rfl⟩
      · rintro ⟨_, ⟨⟩, rfl⟩
        rfl
  | ok first =>
      constructor
      · intro changed
        cases changed
      · rintro ⟨_, ⟨⟩, _⟩

theorem mapError_bind {change : ε → ε'} {result : Except ε α} {next : α → Except ε β} :
    (result >>= next).mapError change =
      result.mapError change >>= fun first => (next first).mapError change := by
  cases result with
  | error e => rfl
  | ok first => rfl

theorem mapError_eq_self {change : ε → ε} {result : Except ε α}
    (keeps : ∀ e, result = .error e → change e = e) : result.mapError change = result := by
  cases result with
  | error e => exact congrArg Except.error (keeps e rfl)
  | ok first => rfl

theorem map_eq_ok_iff {change : α → β} {result : Except ε α} {answer : β} :
    result.map change = .ok answer ↔
      ∃ first, result = .ok first ∧ change first = answer := by
  cases result with
  | error e => simp [Except.map]
  | ok first => simp [Except.map]

theorem toOption_eq_some_iff {result : Except ε α} {answer : α} :
    result.toOption = some answer ↔ result = .ok answer := by
  cases result with
  | error e => simp [Except.toOption]
  | ok first => simp [Except.toOption]

/-! ## Lists of results -/

section Lists

variable {γ : Type} {items : List α}

theorem mapM_cons_eq_ok_iff {f : α → Except ε β} {item : α} {answers : List β} :
    (item :: items).mapM f = .ok answers ↔
      ∃ first rest, f item = .ok first ∧ items.mapM f = .ok rest ∧ answers = first :: rest := by
  rw [List.mapM_cons, bind_eq_ok_iff]
  constructor
  · rintro ⟨first, answered, others⟩
    obtain ⟨rest, answeredRest, whole⟩ := bind_eq_ok_iff.mp others
    cases whole
    exact ⟨first, rest, answered, answeredRest, rfl⟩
  · rintro ⟨first, rest, answered, answeredRest, rfl⟩
    exact ⟨first, answered, bind_eq_ok_iff.mpr ⟨rest, answeredRest, rfl⟩⟩

/-- A list has answers if each of its members has one. -/
theorem mapM_eq_ok_iff {f : α → Except ε β} {answers : List β} :
    items.mapM f = .ok answers ↔ List.Forall₂ (fun a b => f a = .ok b) items answers := by
  induction items generalizing answers with
  | nil =>
      rw [List.mapM_nil, List.forall₂_nil_left_iff]
      constructor
      · rintro ⟨⟩
        rfl
      · rintro rfl
        rfl
  | cons item items induction =>
      rw [mapM_cons_eq_ok_iff, List.forall₂_cons_left_iff]
      constructor
      · rintro ⟨first, rest, answered, answeredRest, rfl⟩
        exact ⟨first, rest, answered, induction.mp answeredRest, rfl⟩
      · rintro ⟨first, rest, answered, answeredRest, rfl⟩
        exact ⟨first, rest, answered, induction.mpr answeredRest, rfl⟩

end Lists

section Stateful

variable {State : Type}

theorem get_bind (next : State → ExceptT ε (StateM State) α) (state : State) :
    (get >>= next) state = next state state :=
  rfl

/-- A computation that fails or changes a state goes on from an answer. -/
theorem bind_of_ok {first : ExceptT ε (StateM State) α} {next : α → ExceptT ε (StateM State) β}
    {state after : State} {answer : α} (answered : first state = (.ok answer, after)) :
    (first >>= next) state = next answer after := by
  simp only [bind, ExceptT.bind, ExceptT.mk, StateT.bind, answered]
  rfl

theorem bind_of_error {first : ExceptT ε (StateM State) α}
    {next : α → ExceptT ε (StateM State) β} {state after : State} {e : ε}
    (failed : first state = (.error e, after)) :
    (first >>= next) state = (.error e, after) := by
  simp only [bind, ExceptT.bind, ExceptT.mk, StateT.bind, failed]
  rfl

end Stateful

end AgentFlow
