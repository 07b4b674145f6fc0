import AgentFlow.Proofs.Workflow.Decomposition
import AgentFlow.Proofs.Workflow.Execution
import AgentFlow.Proofs.Workflow.FirstOccurrence
import AgentFlow.Proofs.Workflow.StepFaults

/-!
# Filling in the placeholders of a text

All placeholders are replaced at once, or none if a name has no value.  What the result is
can be read off the decomposition of the text: literal text stays, and values stand where
the placeholders were, also when a value and the text beside it spell another placeholder.
-/

namespace AgentFlow

open AgentFlow.Text

namespace Template

/-- The text of the placeholder of a name. -/
def reference (name : String) : String :=
  "\x7b" ++ name ++ "\x7d"

/-- The first of the names that has no value. -/
def FirstUnbound (values : String → Option String) (names : List String) (name : String) : Prop :=
  values name = none ∧ ∃ before after, names = before ++ name :: after ∧
    ∀ earlier ∈ before, values earlier ≠ none

theorem toList_reference (name : String) :
    (reference name).toList = (Piece.placeholder name.toList).chars := by
  simp [reference, Piece.chars]

variable {decomposition : Decomposition} {text result : String}
  {values : String → Option String}

/-! ## The names of a decomposition -/

theorem mentions_of_isOf (isOf : decomposition.IsOf text.toList) :
    mentions text = decomposition.names := by
  have literals : ∀ literal : List Char, (literal.map Piece.literal).filterMap Piece.name? = [] := by
    intro literal
    rw [List.filterMap_map, List.filterMap_eq_nil_iff]
    intro c _
    rfl
  have slots : ∀ slots : List (List Char × List Char),
      (slots.flatMap Decomposition.slotPieces).filterMap Piece.name? =
        slots.map fun slot => String.ofList slot.1 := by
    intro slots
    induction slots with
    | nil => rfl
    | cons slot slots induction =>
        rw [List.flatMap_cons, List.filterMap_append, induction, Decomposition.slotPieces,
          List.filterMap_cons, literals]
        rfl
  rw [mentions, Decomposition.pieces_of_isOf isOf, Decomposition.pieces, List.filterMap_append,
    literals, slots]
  rfl

theorem references_of_isOf (isOf : decomposition.IsOf text.toList) :
    FirstOccurrences decomposition.names (references text) := by
  rw [← mentions_of_isOf isOf]
  exact firstOccurrences_eraseDups (mentions text)

theorem name_mem_references (isOf : decomposition.IsOf text.toList) {slot : List Char × List Char}
    (member : slot ∈ decomposition.slots) : String.ofList slot.1 ∈ references text := by
  rw [(references_of_isOf isOf).mem]
  exact List.mem_map_of_mem member

/-! ## What is filled in -/

theorem firstUnbound_iff {names : List String} {name : String} :
    (names.find? fun name => (values name).isNone) = some name ↔
      FirstUnbound values names name := by
  rw [List.find?_eq_some_iff_append]
  simp [FirstUnbound, Option.isSome_iff_ne_none]

theorem interpolate_eq_error_iff (isOf : decomposition.IsOf text.toList) {e : Error} :
    interpolate values text = .error e ↔
      ∃ name, FirstUnbound values decomposition.names name ∧
        e = .undefinedVariable name .unplaced := by
  unfold interpolate
  rw [find?_references, mentions_of_isOf isOf]
  cases unbound : decomposition.names.find? fun name => (values name).isNone with
  | none =>
      constructor
      · intro failed
        cases failed
      · intro fails
        obtain ⟨name, first, _⟩ := fails
        rw [firstUnbound_iff.mpr first] at unbound
        cases unbound
  | some name =>
      constructor
      · intro failed
        cases failed
        exact ⟨name, firstUnbound_iff.mp unbound, rfl⟩
      · intro fails
        obtain ⟨other, first, rfl⟩ := fails
        rw [firstUnbound_iff.mpr first] at unbound
        cases unbound
        rfl

theorem Decomposition.fill_congr {value other : List Char → List Char}
    (same : ∀ slot ∈ decomposition.slots, value slot.1 = other slot.1) :
    decomposition.fill value = decomposition.fill other := by
  have parts : ∀ slot ∈ decomposition.slots, value slot.1 ++ slot.2 = other slot.1 ++ slot.2 := by
    intro slot member
    rw [same slot member]
  rw [fill, fill, List.flatMap_congr parts]

/-- What stands in the place of a placeholder. -/
def valueOf (values : String → Option String) (name : List Char) : List Char :=
  ((values (String.ofList name)).getD "").toList

theorem interpolate_eq_ok (isOf : decomposition.IsOf text.toList) :
    interpolate values text = .ok result ↔
      (∀ name ∈ decomposition.names, values name ≠ none) ∧
        result.toList = decomposition.fill (valueOf values) := by
  have filled : (pieces text.toList).flatMap (Piece.substitute values) =
      decomposition.fill (valueOf values) := by
    rw [Decomposition.pieces_of_isOf isOf]
    exact decomposition.flatMap_pieces fun c => rfl
  have sameNames := (references_of_isOf isOf).mem
  constructor
  · intro answered
    unfold interpolate at answered
    split at answered
    · cases answered
    · rename_i allBound
      cases answered
      refine ⟨?_, by rw [String.toList_ofList, filled]⟩
      intro name member
      simpa using List.find?_eq_none.mp allBound name ((sameNames name).mpr member)
  · intro bound
    rw [interpolate_of_bound, filled, ← bound.2, String.ofList_toList]
    intro name member
    rw [Option.isSome_iff_ne_none]
    exact bound.1 name ((sameNames name).mp member)

/-- The values stand in the text as they are. -/
theorem interpolate_eq_ok_iff (isOf : decomposition.IsOf text.toList) :
    interpolate values text = .ok result ↔
      ∃ value : List Char → List Char,
        (∀ slot ∈ decomposition.slots,
          values (String.ofList slot.1) = some (String.ofList (value slot.1))) ∧
        result.toList = decomposition.fill value := by
  rw [interpolate_eq_ok isOf]
  constructor
  · intro answered
    refine ⟨valueOf values, ?_, answered.2⟩
    intro slot member
    have bound := answered.1 _ (List.mem_map_of_mem member)
    obtain ⟨value, found⟩ := Option.ne_none_iff_exists'.mp bound
    simp [valueOf, found]
  · intro answered
    obtain ⟨value, bound, same⟩ := answered
    constructor
    · intro name member
      obtain ⟨slot, inSlots, rfl⟩ := List.mem_map.mp member
      simp [bound slot inSlots]
    · rw [same]
      apply Decomposition.fill_congr
      intro slot member
      simp [valueOf, bound slot member]

/-! ## Other values -/

/-- Only the names that the text refers to matter. -/
theorem interpolate_congr {others : String → Option String}
    (same : ∀ name ∈ references text, values name = others name) :
    interpolate values text = interpolate others text := by
  have isOf := Decomposition.isOf_ofPieces text.toList
  have sameNames := (references_of_isOf isOf).mem
  cases answer : interpolate others text with
  | ok result =>
      obtain ⟨value, bound, filled⟩ := (interpolate_eq_ok_iff isOf).mp answer
      refine (interpolate_eq_ok_iff isOf).mpr ⟨value, ?_, filled⟩
      intro slot member
      rw [same _ (name_mem_references isOf member), bound slot member]
  | error e =>
      obtain ⟨name, ⟨unbound, before, after, split, bound⟩, rfl⟩ :=
        (interpolate_eq_error_iff isOf).mp answer
      have listed : ∀ other ∈ before ++ name :: after, values other = others other := by
        intro other member
        rw [← split] at member
        exact same other ((sameNames other).mpr member)
      refine (interpolate_eq_error_iff isOf).mpr ⟨name, ⟨?_, before, after, split, ?_⟩, rfl⟩
      · rw [listed name (by simp), unbound]
      · intro earlier member
        rw [listed earlier (List.mem_append_left _ member)]
        exact bound earlier member

/-- Names that are bound to their own placeholders leave the text as it is. -/
theorem interpolate_references
    (own : ∀ name ∈ references text, values name = some (reference name)) :
    interpolate values text = .ok text := by
  have isOf := Decomposition.isOf_ofPieces text.toList
  refine (interpolate_eq_ok_iff isOf).mpr ⟨fun name => (Piece.placeholder name).chars, ?_, ?_⟩
  · intro slot member
    rw [own _ (name_mem_references isOf member), ← String.ofList_toList (s := reference _),
      toList_reference, String.toList_ofList]
  · exact isOf.whole.symm

/-! ## Other names -/

/-- The names in the placeholders, changed. -/
def renamed (rename : String → String) (name : List Char) : List Char :=
  (rename (String.ofList name)).toList

theorem names_rename (rename : String → String) (decomposition : Decomposition) :
    (decomposition.rename (renamed rename)).names = decomposition.names.map rename := by
  simp [Decomposition.names, Decomposition.rename, renamed]

theorem fill_rename (change : List Char → List Char) (value : List Char → List Char)
    (decomposition : Decomposition) :
    (decomposition.rename change).fill value = decomposition.fill fun name => value (change name) := by
  simp [Decomposition.fill, Decomposition.rename, List.flatMap_map]

/-- Names that are bound to the placeholders of others are changed to these others, and the
text is as it was between them. -/
theorem interpolate_rename {rename : String → String}
    (identifiers : ∀ name, isIdentifier name = true → isIdentifier (rename name) = true)
    (renames : ∀ name ∈ references text, values name = some (reference (rename name)))
    (isOf : decomposition.IsOf text.toList) :
    ∃ result, interpolate values text = .ok result ∧
      (decomposition.rename (renamed rename)).IsOf result.toList := by
  refine ⟨String.ofList (decomposition.fill fun name => (Piece.placeholder (renamed rename name)).chars),
    (interpolate_eq_ok_iff isOf).mpr
      ⟨fun name => (Piece.placeholder (renamed rename name)).chars, ?_, String.toList_ofList⟩, ?_⟩
  · intro slot member
    rw [renames _ (name_mem_references isOf member), ← String.ofList_toList (s := reference _),
      toList_reference]
    rfl
  · constructor
    · rw [fill_rename, String.toList_ofList]
    · intro slot member
      obtain ⟨original, inSlots, rfl⟩ := List.mem_map.mp member
      apply identifiers
      rw [isIdentifier, String.toList_ofList]
      exact isOf.named original inSlots
    · exact isOf.lead
    · intro slot member
      obtain ⟨original, inSlots, rfl⟩ := List.mem_map.mp member
      exact isOf.between original inSlots

section Renamed

variable {rename : String → String} {other : String}

theorem interpolate_renamed_eq_ok_iff (isOf : decomposition.IsOf text.toList)
    (otherIsOf : (decomposition.rename (renamed rename)).IsOf other.toList) :
    interpolate values other = .ok result ↔
      interpolate (fun name => values (rename name)) text = .ok result := by
  have sameValues : (fun name => valueOf values (renamed rename name)) =
      valueOf fun name => values (rename name) := by
    funext name
    simp [valueOf, renamed]
  rw [interpolate_eq_ok otherIsOf, interpolate_eq_ok isOf, names_rename, fill_rename, sameValues,
    List.forall_mem_map]

theorem firstUnbound_map_iff {names : List String} {name : String} :
    FirstUnbound values (names.map rename) name ↔
      ∃ original, FirstUnbound (fun name => values (rename name)) names original ∧
        rename original = name := by
  rw [← firstUnbound_iff, List.find?_map, Option.map_eq_some_iff]
  simp only [← firstUnbound_iff, Function.comp_def]

theorem interpolate_renamed_eq_error_iff (isOf : decomposition.IsOf text.toList)
    (otherIsOf : (decomposition.rename (renamed rename)).IsOf other.toList) {e : Error} :
    interpolate values other = .error e ↔
      ∃ name, interpolate (fun name => values (rename name)) text =
          .error (.undefinedVariable name .unplaced) ∧
        e = .undefinedVariable (rename name) .unplaced := by
  rw [interpolate_eq_error_iff otherIsOf, names_rename]
  constructor
  · intro failed
    obtain ⟨name, first, rfl⟩ := failed
    obtain ⟨original, originalFirst, rfl⟩ := firstUnbound_map_iff.mp first
    exact ⟨original, (interpolate_eq_error_iff isOf).mpr ⟨original, originalFirst, rfl⟩, rfl⟩
  · intro failed
    obtain ⟨original, originalFailed, rfl⟩ := failed
    obtain ⟨name, first, same⟩ := (interpolate_eq_error_iff isOf).mp originalFailed
    cases same
    exact ⟨rename original, firstUnbound_map_iff.mpr ⟨original, first, rfl⟩, rfl⟩

end Renamed

/-- A text has one decomposition into its placeholders and the literal text between them.
Interpolation puts the values in the places of the placeholders, all at once, or tells the
first name that has no value.  So it reads no other values, leaves a text whose names are
bound to their own placeholders as it is, and changes names before or after as one likes. -/
theorem interpolate_simultaneous (text : String) :
    ∃ decomposition : Decomposition, decomposition.IsOf text.toList ∧
      (∀ other : Decomposition, other.IsOf text.toList → other = decomposition) ∧
      FirstOccurrences decomposition.names (references text) ∧
      (∀ values e, interpolate values text = .error e ↔
        ∃ name, FirstUnbound values decomposition.names name ∧
          e = .undefinedVariable name .unplaced) ∧
      (∀ values result, interpolate values text = .ok result ↔
        ∃ value : List Char → List Char,
          (∀ slot ∈ decomposition.slots,
            values (String.ofList slot.1) = some (String.ofList (value slot.1))) ∧
          result.toList = decomposition.fill value) ∧
      (∀ values others, (∀ name ∈ references text, values name = others name) →
        interpolate values text = interpolate others text) ∧
      (∀ values, (∀ name ∈ references text, values name = some (reference name)) →
        interpolate values text = .ok text) ∧
      ∀ (rename : String → String) (changed : String → Option String),
        (∀ name, isIdentifier name = true → isIdentifier (rename name) = true) →
        (∀ name ∈ references text, changed name = some (reference (rename name))) →
        ∃ between, interpolate changed text = .ok between ∧
          ∀ values,
            (∀ result, interpolate values between = .ok result ↔
              interpolate (fun name => values (rename name)) text = .ok result) ∧
            ∀ e, interpolate values between = .error e ↔
              ∃ name, interpolate (fun name => values (rename name)) text =
                  .error (.undefinedVariable name .unplaced) ∧
                e = .undefinedVariable (rename name) .unplaced := by
  have isOf := Decomposition.isOf_ofPieces text.toList
  refine ⟨_, isOf, fun other otherIsOf => isOf.unique otherIsOf, references_of_isOf isOf, ?_, ?_,
    ?_, ?_, ?_⟩
  · intro values e
    exact interpolate_eq_error_iff isOf
  · intro values result
    exact interpolate_eq_ok_iff isOf
  · intro values others same
    exact interpolate_congr same
  · intro values own
    exact interpolate_references own
  · intro rename changed identifiers renames
    obtain ⟨between, answered, betweenIsOf⟩ := interpolate_rename identifiers renames isOf
    refine ⟨between, answered, ?_⟩
    intro values
    constructor
    · intro result
      exact interpolate_renamed_eq_ok_iff isOf betweenIsOf
    · intro e
      exact interpolate_renamed_eq_error_iff isOf betweenIsOf

/-- A value that makes a placeholder with the text beside it is not read again. -/
example : (interpolate (fun _ => some "b\x7d\x7ba") "\x7b\x7ba\x7d\x7d\x7ba").toOption =
    some "\x7bb\x7d\x7ba\x7d\x7ba" := by
  decide +kernel

end Template

end AgentFlow
