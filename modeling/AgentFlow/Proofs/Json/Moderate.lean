import AgentFlow.Json.Reader
import AgentFlow.Proofs.Number.Magnitude
import AgentFlow.Proofs.Value.Table
import Mathlib.Data.List.TakeWhile

/-!
# Values without numbers that are too long

The reader refuses integers that have too many digits, and floating-point numbers do not
have as many.  So every number in a value that was read can be written as an integer.
-/

namespace AgentFlow

open AgentFlow.Number

/-- A value whose numbers, wherever they stand in it, can be written as integers. -/
inductive Value.Moderate : Value → Prop where
  | null : Moderate .null
  | bool (b : Bool) : Moderate (.bool b)
  | text (s : String) : Moderate (.text s)
  | int {n : Int} : IsWritable n → Moderate (.int n)
  | float {x : Binary64} : (∀ n, x.truncate? = some n → IsWritable n) → Moderate (.float x)
  | list {items : List Value} : (∀ item ∈ items, Moderate item) → Moderate (.list items)
  | table {entries : List (Value × Value)} :
      (∀ entry ∈ entries, Moderate entry.2) → Moderate (.table entries)

namespace Value

theorem Moderate.entry {entries : List (Value × Value)} (moderate : Moderate (.table entries)) :
    ∀ entry ∈ entries, Moderate entry.2 := by
  cases moderate with
  | table entries => exact entries

theorem Moderate.float_of_none {x : Binary64} (none_ : x.truncate? = none) : Moderate (.float x) :=
  .float fun n truncated => by rw [none_] at truncated; cases truncated

theorem moderate_field {entries : List (Value × Value)} (key : String)
    (moderate : ∀ entry ∈ entries, Moderate entry.2) : Moderate (field key entries) := by
  unfold field
  fun_induction lookup? key entries with
  | case1 => exact .null
  | case2 value rest => exact (List.forall_mem_cons.mp moderate).1
  | case3 k value rest _ induction => exact induction (List.forall_mem_cons.mp moderate).2
  | case4 _ rest _ induction => exact induction (List.forall_mem_cons.mp moderate).2

end Value

namespace Json

open Value

theorem moderate_gather {members : List (String × Value)}
    (moderate : ∀ member ∈ members, Moderate member.2) : Moderate (.table (gather members)) := by
  suffices general : ∀ entries, (∀ entry ∈ entries, Moderate entry.2) →
      ∀ entry ∈ members.foldl
        (fun entries member => insertEntry (.text member.1) member.2 entries) entries,
        Moderate entry.2 from .table (general [] (List.forall_mem_nil _))
  induction members with
  | nil => exact fun _ moderateEntries => moderateEntries
  | cons member members induction =>
      obtain ⟨first, others⟩ := List.forall_mem_cons.mp moderate
      exact fun entries moderateEntries =>
        induction others _ (forall_insertEntry first moderateEntries)

/-! ## Numbers and words -/

theorem digitsValue_lt {digits : List Char} (areDigits : ∀ c ∈ digits, c.isDigit = true) :
    digitsValue digits < 10 ^ digits.length := by
  have small : ∀ c ∈ digits, c.toNat - 0x30 < 10 := by
    intro c member
    have bounds : 48 ≤ c.val ∧ c.val ≤ 57 := by simpa [Char.isDigit] using areDigits c member
    have atMost : c.toNat ≤ 57 := UInt32.le_iff_toNat_le.mp bounds.2
    omega
  have bounded := foldl_digits_lt small 0
  rwa [Nat.zero_add, Nat.one_mul] at bounded

theorem isDigit_of_takeWhole? {cs whole rest : List Char}
    (taken : takeWhole? cs = some (whole, rest)) : ∀ c ∈ whole, c.isDigit = true := by
  unfold takeWhole? at taken
  split at taken
  · cases taken
    exact List.forall_mem_singleton.mpr rfl
  · split at taken
    · cases taken
      exact fun c member => List.mem_takeWhile_imp member
    · cases taken
  · cases taken

theorem moderate_readNumber {negative : Bool} {cs rest : List Char} {value : Value}
    (read : readNumber negative cs = .ok (value, rest)) : value.Moderate := by
  unfold readNumber at read
  split at read
  · cases read
  · rename_i whole afterWhole taken
    dsimp only at read
    split at read
    · split at read
      · cases read
      · rename_i notLong
        have short : 10 ^ whole.length ≤ 10 ^ maxDigits :=
          Nat.pow_le_pow_right (by decide) (Nat.not_lt.mp notLong)
        have bounded := Nat.lt_of_lt_of_le (digitsValue_lt (isDigit_of_takeWhole? taken)) short
        have writable : IsWritable (digitsValue whole) := by
          rwa [IsWritable, Int.natAbs_natCast]
        cases read
        refine .int ?_
        split
        · exact isWritable_neg.mpr writable
        · exact writable
    · cases read
      exact .float fun _ => Binary64.isWritable_truncate_ofDecimal

theorem moderate_readWord? {cs rest : List Char} {value : Value}
    (read : readWord? cs = some (value, rest)) : value.Moderate := by
  obtain ⟨⟨word, found⟩, listed, dropped⟩ := List.exists_of_findSome?_eq_some read
  obtain ⟨_, _, same⟩ := Option.map_eq_some_iff.mp dropped
  cases same
  simp only [words, List.mem_cons, Prod.mk.injEq, List.not_mem_nil, or_false] at listed
  rcases listed with ⟨_, rfl⟩ | ⟨_, rfl⟩ | ⟨_, rfl⟩ | ⟨_, rfl⟩ | ⟨_, rfl⟩ | ⟨_, rfl⟩
  · exact .null
  · exact .bool true
  · exact .bool false
  all_goals exact .float_of_none rfl

/-! ## Whole values -/

/-- What the readers give with some bound on the depth of their calls is moderate. -/
structure ReadsModerate (fuel : Nat) : Prop where
  value : ∀ room cs value rest, readValue fuel room cs = .ok (value, rest) → value.Moderate
  items : ∀ room cs items rest, readItems fuel room cs = .ok (items, rest) →
    ∀ item ∈ items, item.Moderate
  members : ∀ room cs members rest, readMembers fuel room cs = .ok (members, rest) →
    ∀ member ∈ members, member.2.Moderate

theorem moderate_readValue {fuel room : Nat} {cs rest : List Char} {value : Value}
    (inside : ReadsModerate fuel) (read : readValue (fuel + 1) room cs = .ok (value, rest)) :
    value.Moderate := by
  unfold readValue at read
  split at read
  · split at read
    · cases read
      exact .text _
    · cases read
  · split at read
    · cases read
    · split at read
      · cases read
        exact .list (List.forall_mem_nil _)
      · obtain ⟨⟨items, _⟩, readItems, same⟩ := map_eq_ok_iff.mp read
        cases same
        exact .list (inside.items _ _ _ _ readItems)
  · split at read
    · cases read
    · split at read
      · cases read
        exact .table (List.forall_mem_nil _)
      · obtain ⟨⟨members, _⟩, readMembers, same⟩ := map_eq_ok_iff.mp read
        cases same
        exact moderate_gather (inside.members _ _ _ _ readMembers)
  · split at read
    · rename_i word isWord
      cases read
      exact moderate_readWord? isWord
    · split at read
      · exact moderate_readNumber read
      · exact moderate_readNumber read

theorem moderate_readItems {fuel room : Nat} {cs rest : List Char} {items : List Value}
    (inside : ReadsModerate fuel) (read : readItems (fuel + 1) room cs = .ok (items, rest)) :
    ∀ item ∈ items, item.Moderate := by
  unfold readItems at read
  obtain ⟨⟨item, afterItem⟩, readFirst, read⟩ := bind_eq_ok_iff.mp read
  have moderate := inside.value _ _ _ _ readFirst
  dsimp only at read
  split at read
  · cases read
    exact List.forall_mem_singleton.mpr moderate
  · obtain ⟨⟨others, _⟩, readRest, same⟩ := bind_eq_ok_iff.mp read
    cases same
    exact List.forall_mem_cons.mpr ⟨moderate, inside.items _ _ _ _ readRest⟩
  · cases read

theorem moderate_readMembers {fuel room : Nat} {cs rest : List Char}
    {members : List (String × Value)} (inside : ReadsModerate fuel)
    (read : readMembers (fuel + 1) room cs = .ok (members, rest)) :
    ∀ member ∈ members, member.2.Moderate := by
  unfold readMembers at read
  split at read
  · split at read
    · cases read
    · split at read
      · obtain ⟨⟨value, afterValue⟩, readFirst, read⟩ := bind_eq_ok_iff.mp read
        have moderate := inside.value _ _ _ _ readFirst
        dsimp only at read
        split at read
        · cases read
          exact List.forall_mem_singleton.mpr moderate
        · obtain ⟨⟨others, _⟩, readRest, same⟩ := bind_eq_ok_iff.mp read
          cases same
          exact List.forall_mem_cons.mpr ⟨moderate, inside.members _ _ _ _ readRest⟩
        · cases read
      · cases read
  · cases read

theorem readsModerate (fuel : Nat) : ReadsModerate fuel := by
  induction fuel with
  | zero =>
      refine ⟨?_, ?_, ?_⟩
      all_goals
        intro room cs found rest read
        cases read
  | succ fuel inside =>
      exact ⟨fun _ _ _ _ => moderate_readValue inside, fun _ _ _ _ => moderate_readItems inside,
        fun _ _ _ _ => moderate_readMembers inside⟩

theorem moderate_of_read {text : String} {value : Value} (accepted : Json.read text = .ok value) :
    value.Moderate := by
  obtain ⟨⟨found, rest⟩, readHead, answered⟩ := bind_eq_ok_iff.mp accepted
  dsimp only at answered
  split at answered
  · cases answered
    exact (readsModerate _).value _ _ _ _ readHead
  · cases answered

end Json

end AgentFlow
