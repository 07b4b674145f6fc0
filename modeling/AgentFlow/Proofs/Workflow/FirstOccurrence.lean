import Mathlib.Data.List.Basic

/-!
# Each name once

Names that are listed as often as they occur, and the same names without repetitions, each
at its first place.  Repetitions may be left out of parts of a list beforehand.
-/

namespace AgentFlow

/-- The members of a list, each once and in the order in which they first occur. -/
structure FirstOccurrences (items distinct : List String) : Prop where
  mem : ∀ item, item ∈ distinct ↔ item ∈ items
  order : distinct.Pairwise fun item other => items.idxOf item < items.idxOf other

theorem idxOf_lt_of_filter {keep : String → Bool} {item other : String} {items : List String}
    (kept : keep item = true) (otherKept : keep other = true)
    (before : (items.filter keep).idxOf item < (items.filter keep).idxOf other) :
    items.idxOf item < items.idxOf other := by
  induction items with
  | nil => simp at before
  | cons first items induction =>
      by_cases isOther : first = other
      · subst isOther
        simp [otherKept] at before
      · by_cases isItem : first = item
        · subst isItem
          simp [isOther]
        · have later : items.idxOf item < items.idxOf other := by
            apply induction
            cases keepFirst : keep first with
            | false => simpa [keepFirst] using before
            | true => simpa [keepFirst, List.idxOf_cons, isItem, isOther] using before
          simpa [List.idxOf_cons, isItem, isOther] using later

theorem firstOccurrences_eraseDups (items : List String) :
    FirstOccurrences items items.eraseDups := by
  match items with
  | [] => exact ⟨fun _ => .rfl, .nil⟩
  | first :: rest =>
      have fewer := List.length_filter_le (fun other => !other == first) rest
      have others := firstOccurrences_eraseDups (rest.filter fun other => !other == first)
      constructor
      · intro item
        exact List.mem_eraseDups
      · rw [List.eraseDups_cons]
        have apart : ∀ other ∈ (rest.filter fun other => !other == first).eraseDups,
            other ≠ first := by
          intro other member
          simpa using (List.mem_filter.mp (List.mem_eraseDups.mp member)).2
        constructor
        · intro other member
          simp [Ne.symm (apart other member)]
        · refine others.order.imp_of_mem ?_
          intro item other member otherMember before
          have itemApart := apart item member
          have otherApart := apart other otherMember
          have later : rest.idxOf item < rest.idxOf other :=
            idxOf_lt_of_filter (by simp [itemApart]) (by simp [otherApart]) before
          simpa [List.idxOf_cons, Ne.symm itemApart, Ne.symm otherApart] using later
termination_by items.length
decreasing_by
  simp only [List.length_cons]
  omega

/-! ## Repetitions in parts of a list -/

theorem eraseDups_filter (items : List String) (keep : String → Bool) :
    (items.filter keep).eraseDups = items.eraseDups.filter keep := by
  match items with
  | [] => rfl
  | first :: rest =>
      have fewer := List.length_filter_le (fun other => !other == first) rest
      have others := eraseDups_filter (rest.filter fun other => !other == first) keep
      have swapped : (rest.filter keep).filter (fun other => !other == first) =
          (rest.filter fun other => !other == first).filter keep := by
        rw [List.filter_filter, List.filter_filter]
        apply List.filter_congr
        intro other _
        exact Bool.and_comm _ _
      rw [List.eraseDups_cons]
      cases keepFirst : keep first with
      | true => simp only [List.filter_cons, keepFirst, if_true, List.eraseDups_cons, swapped, others]
      | false =>
          have absent : (rest.filter fun other => !other == first).filter keep = rest.filter keep := by
            rw [← swapped, List.filter_eq_self]
            intro other member
            have kept := (List.mem_filter.mp member).2
            cases same : other == first with
            | false => rfl
            | true =>
                rw [beq_iff_eq.mp same, keepFirst] at kept
                cases kept
          rw [List.filter_cons_of_neg (by simp [keepFirst]), List.filter_cons_of_neg (by simp [keepFirst]),
            ← others, absent]
termination_by items.length
decreasing_by
  simp only [List.length_cons]
  omega

theorem eraseDups_eraseDups (items : List String) : items.eraseDups.eraseDups = items.eraseDups := by
  match items with
  | [] => rfl
  | first :: rest =>
      have fewer := List.length_filter_le (fun other => !other == first) rest
      have others := eraseDups_eraseDups (rest.filter fun other => !other == first)
      rw [List.eraseDups_cons, List.eraseDups_cons, eraseDups_filter, others, ← eraseDups_filter,
        List.filter_filter]
      simp only [Bool.and_self]
termination_by items.length
decreasing_by
  simp only [List.length_cons]
  omega

theorem eraseDups_append_congr {first second other : List String}
    (same : second.eraseDups = other.eraseDups) :
    (first.eraseDups ++ second).eraseDups = (first ++ other).eraseDups := by
  have sameMembers : ∀ items : List String,
      items.removeAll first.eraseDups = items.removeAll first := by
    intro items
    apply List.filter_congr
    intro item _
    simp [List.mem_eraseDups]
  rw [List.eraseDups_append, List.eraseDups_append, eraseDups_eraseDups, sameMembers,
    List.removeAll, List.removeAll, eraseDups_filter, eraseDups_filter, same]

/-- It makes no difference whether repetitions are left out of the parts too. -/
theorem eraseDups_flatMap {α : Type} (items : List α) (list : α → List String) :
    (items.flatMap fun item => (list item).eraseDups).eraseDups =
      (items.flatMap list).eraseDups := by
  induction items with
  | nil => rfl
  | cons item items induction => exact eraseDups_append_congr induction

end AgentFlow
