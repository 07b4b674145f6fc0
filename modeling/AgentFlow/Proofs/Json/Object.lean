import AgentFlow.Json.Reader
import AgentFlow.Proofs.Result
import Mathlib.Data.List.Nodup

/-!
# The members of objects

An object that is read has texts for its keys, each of them once.  If the members have
distinct keys already, putting them together changes nothing.
-/

namespace AgentFlow.Json

open AgentFlow.Number

/-- Members as the entries of a table. -/
def asEntries (members : List (String × Value)) : List (Value × Value) :=
  members.map fun (key, value) => (.text key, value)

/-- Entries whose keys are texts, each of them once. -/
def TextKeyed (entries : List (Value × Value)) : Prop :=
  ∃ members : List (String × Value),
    (members.map Prod.fst).Nodup ∧ entries = asEntries members

/-! ## Putting members together -/

theorem insertEntry_fresh {key : String} {members : List (String × Value)} (value : Value)
    (fresh : key ∉ members.map Prod.fst) :
    Value.insertEntry (.text key) value (asEntries members) =
      asEntries (members ++ [(key, value)]) := by
  induction members with
  | nil => rfl
  | cons member members induction =>
      rw [List.map_cons, List.mem_cons, not_or] at fresh
      obtain ⟨differs, fresh⟩ := fresh
      have distinct : (Value.text member.1).sameKey (.text key) = false := by
        simpa [Value.sameKey] using fun same => differs (Eq.symm same)
      have step := induction fresh
      simp only [asEntries, List.map_cons, List.cons_append] at step ⊢
      rw [Value.insertEntry, distinct, step]
      rfl

theorem insertEntry_present {key : String} {members : List (String × Value)} (value : Value)
    (present : key ∈ members.map Prod.fst) :
    ∃ updated, Value.insertEntry (.text key) value (asEntries members) = asEntries updated ∧
      updated.map Prod.fst = members.map Prod.fst := by
  induction members with
  | nil => cases present
  | cons member members induction =>
      by_cases same : member.1 = key
      · refine ⟨(member.1, value) :: members, ?_, rfl⟩
        simp [asEntries, Value.insertEntry, Value.sameKey, same]
      · have later : key ∈ members.map Prod.fst := by
          rcases List.mem_cons.mp present with head | tail
          · exact absurd (Eq.symm head) same
          · exact tail
        obtain ⟨updated, step, keys⟩ := induction later
        refine ⟨member :: updated, ?_, congrArg (member.1 :: ·) keys⟩
        simp only [asEntries, List.map_cons] at step ⊢
        rw [Value.insertEntry, step]
        simp [Value.sameKey, same]

theorem TextKeyed.insertEntry {entries : List (Value × Value)} (keyed : TextKeyed entries)
    (key : String) (value : Value) : TextKeyed (Value.insertEntry (.text key) value entries) := by
  obtain ⟨members, distinct, rfl⟩ := keyed
  by_cases present : key ∈ members.map Prod.fst
  · obtain ⟨updated, shape, keys⟩ := insertEntry_present value present
    exact ⟨updated, keys ▸ distinct, shape⟩
  · refine ⟨members ++ [(key, value)], ?_, insertEntry_fresh value present⟩
    rw [List.map_append, List.map_singleton, List.nodup_append]
    refine ⟨distinct, List.nodup_singleton key, ?_⟩
    rintro other inMembers _ last rfl
    obtain rfl := List.mem_singleton.mp last
    exact present inMembers

theorem gather_append {before members : List (String × Value)}
    (distinct : ((before ++ members).map Prod.fst).Nodup) :
    members.foldl (fun entries member => Value.insertEntry (.text member.1) member.2 entries)
        (asEntries before) = asEntries (before ++ members) := by
  induction members generalizing before with
  | nil => simp
  | cons member members induction =>
      have shifted : before ++ member :: members = (before ++ [member]) ++ members := by simp
      rw [shifted] at distinct ⊢
      have fresh : member.1 ∉ before.map Prod.fst := by
        rw [List.append_assoc, List.map_append, List.nodup_append] at distinct
        intro present
        exact distinct.2.2 member.1 present member.1 (by simp) rfl
      rw [List.foldl_cons, insertEntry_fresh member.2 fresh]
      exact induction distinct

theorem gather_distinct {members : List (String × Value)}
    (distinct : (members.map Prod.fst).Nodup) : gather members = asEntries members :=
  @gather_append [] members distinct

theorem textKeyed_gather (members : List (String × Value)) : TextKeyed (gather members) := by
  suffices general : ∀ entries, TextKeyed entries →
      TextKeyed (members.foldl
        (fun entries member => Value.insertEntry (.text member.1) member.2 entries) entries) from
    general [] ⟨[], List.nodup_nil, rfl⟩
  induction members with
  | nil => exact fun _ keyed => keyed
  | cons member members induction =>
      exact fun _ keyed => induction _ (keyed.insertEntry member.1 member.2)

/-! ## Reading objects -/

theorem readNumber_ne_table {negative : Bool} {cs rest : List Char}
    {entries : List (Value × Value)} : readNumber negative cs ≠ .ok (.table entries, rest) := by
  unfold readNumber
  split
  · nofun
  · simp only
    split
    · split <;> nofun
    · nofun

theorem readWord?_ne_table {cs rest : List Char} {entries : List (Value × Value)} :
    readWord? cs ≠ some (.table entries, rest) := by
  intro isWord
  obtain ⟨⟨word, value⟩, listed, dropped⟩ := List.exists_of_findSome?_eq_some isWord
  obtain ⟨_, _, same⟩ := Option.map_eq_some_iff.mp dropped
  cases same
  simp [words] at listed

theorem textKeyed_of_readValue {fuel room : Nat} {cs rest : List Char}
    {entries : List (Value × Value)}
    (accepted : readValue fuel room cs = .ok (.table entries, rest)) : TextKeyed entries := by
  cases fuel with
  | zero => cases accepted
  | succ fuel =>
      unfold readValue at accepted
      split at accepted
      · split at accepted <;> cases accepted
      · split at accepted
        · cases accepted
        · split at accepted
          · cases accepted
          · obtain ⟨_, _, same⟩ := map_eq_ok_iff.mp accepted
            cases same
      · split at accepted
        · cases accepted
        · split at accepted
          · cases accepted
            exact ⟨[], List.nodup_nil, rfl⟩
          · obtain ⟨⟨members, _⟩, _, same⟩ := map_eq_ok_iff.mp accepted
            cases same
            exact textKeyed_gather members
      · split at accepted
        · rename_i word isWord
          cases accepted
          exact absurd isWord readWord?_ne_table
        · split at accepted
          · exact absurd accepted readNumber_ne_table
          · exact absurd accepted readNumber_ne_table

/-- A text that is an object has distinct texts for keys. -/
theorem textKeyed_of_read {text : String} {entries : List (Value × Value)}
    (accepted : Json.read text = .ok (.table entries)) : TextKeyed entries := by
  obtain ⟨⟨value, rest⟩, readHead, answered⟩ := bind_eq_ok_iff.mp accepted
  dsimp only at answered
  split at answered
  · cases answered
    exact textKeyed_of_readValue readHead
  · cases answered

end AgentFlow.Json
