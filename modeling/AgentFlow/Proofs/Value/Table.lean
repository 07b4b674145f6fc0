import AgentFlow.Proofs.Json.Object

/-!
# What is found in a table

A text key of a table finds what was put under it last, and nothing that was put under any
other key.  `Keyed` says that every table in a value has texts for its keys, each of them once.
-/

namespace AgentFlow

open AgentFlow.Json

namespace Value

variable {key other : String} {value old : Value} {entries : List (Value × Value)}

theorem lookup?_cons (key other : String) (value : Value) (entries : List (Value × Value)) :
    lookup? key ((.text other, value) :: entries) =
      if other = key then some value else lookup? key entries := rfl

theorem sameKey_text_iff {v : Value} : v.sameKey (.text key) = true ↔ v = .text key := by
  cases v with
  | text s => simp [sameKey]
  | _ => simp [sameKey, integer?]

/-- A text key finds what was put under it, and what was put under another one is no matter. -/
theorem lookup?_insertEntry (key other : String) (value : Value)
    (entries : List (Value × Value)) :
    lookup? key (insertEntry (.text other) value entries) =
      if other = key then some value else lookup? key entries := by
  induction entries with
  | nil => rfl
  | cons entry entries induction =>
      obtain ⟨oldKey, old⟩ := entry
      rw [insertEntry]
      split
      · rename_i same
        rw [sameKey_text_iff] at same
        subst same
        rw [lookup?_cons, lookup?_cons]
        split <;> rfl
      · rename_i differs
        rw [sameKey_text_iff] at differs
        cases oldKey with
        | text s =>
            rw [lookup?_cons, lookup?_cons, induction]
            by_cases here : other = key
            · have notHere : s ≠ key := fun same => differs (by rw [here, same])
              rw [if_neg notHere, if_pos here, if_pos here]
            · rw [if_neg here, if_neg here]
        | _ => exact induction

theorem exists_mem_of_lookup? (found : lookup? key entries = some value) :
    ∃ entry ∈ entries, entry.2 = value := by
  induction entries with
  | nil => cases found
  | cons entry entries induction =>
      obtain ⟨oldKey, old⟩ := entry
      have later (found : lookup? key entries = some value) :
          ∃ entry ∈ (oldKey, old) :: entries, entry.2 = value := by
        obtain ⟨entry, member, same⟩ := induction found
        exact ⟨entry, List.mem_cons_of_mem _ member, same⟩
      cases oldKey with
      | text s =>
          rw [lookup?_cons] at found
          split at found
          · exact ⟨_, List.mem_cons_self, Option.some.inj found⟩
          · exact later found
      | _ => exact later found

/-- What is put into a table is what it holds besides what it held. -/
theorem forall_insertEntry {holds : Value → Prop} {key : Value} (new : holds value)
    (held : ∀ entry ∈ entries, holds entry.2) :
    ∀ entry ∈ insertEntry key value entries, holds entry.2 := by
  induction entries with
  | nil => exact List.forall_mem_singleton.mpr new
  | cons first entries induction =>
      obtain ⟨heldFirst, heldOthers⟩ := List.forall_mem_cons.mp held
      unfold insertEntry
      split
      · exact List.forall_mem_cons.mpr ⟨new, heldOthers⟩
      · exact List.forall_mem_cons.mpr ⟨heldFirst, induction heldOthers⟩

/-! ## Distinct keys -/

/-- Whether a value is neither a list nor a table. -/
def isScalar : Value → Bool
  | .list _ => false
  | .table _ => false
  | _ => true

/-- Wherever a table stands in a value, its keys are texts, each of them once. -/
inductive Keyed : Value → Prop
  | scalar {value : Value} (isScalar : value.isScalar = true) : Keyed value
  | list {items : List Value} (all : ∀ item ∈ items, Keyed item) : Keyed (.list items)
  | table {entries : List (Value × Value)} (keyed : TextKeyed entries)
      (all : ∀ entry ∈ entries, Keyed entry.2) : Keyed (.table entries)

theorem Keyed.textKeyed (keyed : Keyed (.table entries)) : TextKeyed entries := by
  cases keyed with
  | scalar isScalar => cases isScalar
  | table keyed _ => exact keyed

theorem Keyed.entry (keyed : Keyed (.table entries)) : ∀ entry ∈ entries, Keyed entry.2 := by
  cases keyed with
  | scalar isScalar => cases isScalar
  | table _ all => exact all

theorem Keyed.item {items : List Value} (keyed : Keyed (.list items)) :
    ∀ item ∈ items, Keyed item := by
  cases keyed with
  | scalar isScalar => cases isScalar
  | list all => exact all

theorem keyed_empty : Keyed (.table []) :=
  .table ⟨[], List.nodup_nil, rfl⟩ (List.forall_mem_nil _)

theorem Keyed.insertEntry (keyed : Keyed (.table entries)) (new : Keyed value) (key : String) :
    Keyed (.table (Value.insertEntry (.text key) value entries)) :=
  .table (keyed.textKeyed.insertEntry key value) (forall_insertEntry new keyed.entry)

theorem Keyed.lookup? (keyed : Keyed (.table entries))
    (found : Value.lookup? key entries = some value) : Keyed value := by
  obtain ⟨entry, member, same⟩ := exists_mem_of_lookup? found
  exact same ▸ keyed.entry entry member

end Value

end AgentFlow
