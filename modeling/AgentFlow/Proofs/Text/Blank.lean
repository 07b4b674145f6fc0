import AgentFlow.Text.Blank
import AgentFlow.Text.Identifier
import Mathlib.Data.List.DropRight

/-!
# Trimmed texts

What trimming leaves has no blank at either end, and only such texts are left alone.
What it takes away are the blanks around the rest.
-/

namespace AgentFlow.Text

section Stops

variable {inside : Char → Bool} {front rest : List Char}
  (all : ∀ c ∈ front, inside c = true) (stops : ∀ c, rest.head? = some c → inside c = false)

include all stops

theorem takeWhile_append_of_stops : (front ++ rest).takeWhile inside = front := by
  rw [List.takeWhile_append_of_pos all]
  cases rest with
  | nil => simp
  | cons c rest => simp [stops c rfl]

theorem dropWhile_append_of_stops : (front ++ rest).dropWhile inside = rest := by
  rw [List.dropWhile_append_of_pos all]
  cases rest with
  | nil => rfl
  | cons c rest => simp [stops c rfl]

end Stops

/-- Neither the first character nor the last one is a blank. -/
structure IsTrimmed (cs : List Char) : Prop where
  first : ∀ c, cs.head? = some c → isBlank c = false
  last : ∀ c, cs.getLast? = some c → isBlank c = false

theorem trimEnd_eq_rdropWhile (cs : List Char) : trimEnd cs = cs.rdropWhile isBlank :=
  rfl

theorem trimStart_eq_self {cs : List Char}
    (first : ∀ c, cs.head? = some c → isBlank c = false) : trimStart cs = cs := by
  cases cs with
  | nil => rfl
  | cons c rest => simp [trimStart, first c rfl]

/-- Blanks in front go away. -/
theorem trimStart_append {blanks rest : List Char} (blank : ∀ c ∈ blanks, isBlank c = true)
    (first : ∀ c, rest.head? = some c → isBlank c = false) : trimStart (blanks ++ rest) = rest :=
  dropWhile_append_of_stops blank first

theorem trimStart_append_cons {blanks rest : List Char} {mark : Char}
    (blank : ∀ c ∈ blanks, isBlank c = true) (noBlank : isBlank mark = false) :
    trimStart (blanks ++ mark :: rest) = mark :: rest := by
  refine trimStart_append blank fun c first => ?_
  obtain rfl := Option.some.inj first
  exact noBlank

theorem trimEnd_eq_self {cs : List Char}
    (last : ∀ c, cs.getLast? = some c → isBlank c = false) : trimEnd cs = cs := by
  rw [trimEnd_eq_rdropWhile, List.rdropWhile_eq_self_iff]
  intro nonempty
  simp [last _ (List.getLast?_eq_some_getLast nonempty)]

theorem trim_eq_self {cs : List Char} (trimmed : IsTrimmed cs) : trim cs = cs := by
  unfold trim
  rw [trimStart_eq_self trimmed.first, trimEnd_eq_self trimmed.last]

/-- Blanks behind a trimmed text go away again. -/
theorem trim_append_of_isBlank {cs blanks : List Char} (trimmed : IsTrimmed cs)
    (nonempty : cs ≠ []) (blank : ∀ c ∈ blanks, isBlank c = true) : trim (cs ++ blanks) = cs := by
  have startKept : trimStart (cs ++ blanks) = cs ++ blanks := by
    apply trimStart_eq_self
    intro c first
    rw [List.head?_append_of_ne_nil _ nonempty] at first
    exact trimmed.first c first
  have blankReverse : ∀ c ∈ blanks.reverse, isBlank c = true :=
    fun c member => blank c (List.mem_reverse.mp member)
  unfold trim trimEnd
  rw [startKept, List.reverse_append, List.dropWhile_append_of_pos blankReverse]
  exact trimEnd_eq_self trimmed.last

theorem head?_trimEnd {cs : List Char} {c : Char} (kept : (trimEnd cs).head? = some c) :
    cs.head? = some c := by
  rw [trimEnd_eq_rdropWhile] at kept
  obtain ⟨dropped, whole⟩ := List.rdropWhile_prefix isBlank cs
  rw [← whole, List.head?_append, kept]
  rfl

theorem isTrimmed_trim (cs : List Char) : IsTrimmed (trim cs) where
  first := by
    intro c atStart
    obtain ⟨rest, kept⟩ := List.head?_eq_some_iff.mp (head?_trimEnd atStart)
    exact not_isBlank_of_trimStart_eq_cons kept
  last := by
    intro c atEnd
    have nonempty : (trimStart cs).rdropWhile isBlank ≠ [] := by
      intro empty
      rw [trim, trimEnd_eq_rdropWhile, empty] at atEnd
      cases atEnd
    have lastKept := List.rdropWhile_last_not isBlank (trimStart cs) nonempty
    rw [trim, trimEnd_eq_rdropWhile, List.getLast?_eq_some_getLast nonempty] at atEnd
    cases atEnd
    simpa using lastKept

theorem exists_append_trimStart (cs : List Char) :
    ∃ front, cs = front ++ trimStart cs ∧ ∀ c ∈ front, isBlank c = true :=
  ⟨cs.takeWhile isBlank, List.takeWhile_append_dropWhile.symm,
    fun _ member => List.mem_takeWhile_imp member⟩

/-- A text is what trimming keeps of it, with blanks in front and behind. -/
theorem exists_trim_append (cs : List Char) :
    ∃ front back, cs = front ++ trim cs ++ back ∧
      (∀ c ∈ front, isBlank c = true) ∧ (∀ c ∈ back, isBlank c = true) := by
  obtain ⟨front, whole, blankFront⟩ := exists_append_trimStart cs
  refine ⟨front, (trimStart cs).rtakeWhile isBlank, ?_, blankFront, ?_⟩
  · rw [trim, trimEnd_eq_rdropWhile, List.append_assoc, List.rdropWhile_append_rtakeWhile]
    exact whole
  · exact fun c member => List.mem_rtakeWhile_imp member

/-- The characters of identifiers lie between the hyphen and the letter z. -/
theorem toNat_bounds_of_isIdentifierChar {c : Char} (inName : isIdentifierChar c = true) :
    45 ≤ c.toNat ∧ c.toNat ≤ 122 := by
  unfold isIdentifierChar Char.isAlphanum Char.isAlpha Char.isUpper Char.isLower
    Char.isDigit at inName
  simp only [Bool.or_eq_true, Bool.and_eq_true, decide_eq_true_eq, beq_iff_eq,
    UInt32.le_iff_toNat_le, ge_iff_le] at inName
  change ((((65 ≤ c.toNat ∧ c.toNat ≤ 90) ∨ (97 ≤ c.toNat ∧ c.toNat ≤ 122)) ∨
    (48 ≤ c.toNat ∧ c.toNat ≤ 57)) ∨ c = '_') ∨ c = '-' at inName
  rcases inName with (letterOrDigit | underscore) | hyphen
  · omega
  · subst underscore
    decide
  · subst hyphen
    decide

theorem trim_subset (cs : List Char) : trim cs ⊆ cs := by
  obtain ⟨front, back, whole, _, _⟩ := exists_trim_append cs
  intro c member
  rw [whole]
  exact List.mem_append_left back (List.mem_append_right front member)

/-- Trimming leaves the first character that is not a blank in front. -/
theorem head?_trim (cs : List Char) : (trim cs).head? = cs.find? (!isBlank ·) := by
  obtain ⟨front, back, whole, blankFront, blankBack⟩ := exists_trim_append cs
  have noneInFront : front.find? (!isBlank ·) = none := by
    simpa using blankFront
  have noneInBack : back.find? (!isBlank ·) = none := by
    simpa using blankBack
  conv => rhs; rw [whole]
  rw [List.append_assoc, List.find?_append, noneInFront, Option.none_or, List.find?_append,
    noneInBack, Option.or_none]
  cases kept : trim cs with
  | nil => rfl
  | cons c rest =>
      have first := (isTrimmed_trim cs).first c (by rw [kept]; rfl)
      simp [first]

theorem not_isBlank_of_isIdentifierChar {c : Char} (inName : isIdentifierChar c = true) :
    isBlank c = false := by
  have bounds := toNat_bounds_of_isIdentifierChar inName
  simp only [isBlank, Bool.or_eq_false_iff, Bool.and_eq_false_iff, decide_eq_false_iff_not,
    beq_eq_false_iff_ne, ne_eq]
  omega

end AgentFlow.Text
