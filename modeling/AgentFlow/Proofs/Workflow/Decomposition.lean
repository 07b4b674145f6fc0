import AgentFlow.Proofs.Workflow.CallForm
import AgentFlow.Workflow.Variables

/-!
# Texts and their placeholders

A text with placeholders is literal text, a placeholder, literal text again, and so on to
its end.  Braces stand at the ends of a placeholder and nowhere else in it, so no two
placeholders overlap, and there is one such decomposition of every text, whatever braces
are left over in it.  Reading a text from the left finds it.
-/

namespace AgentFlow.Template

open AgentFlow.Text

/-- No placeholder stands in the text. -/
def IsLiteral (cs : List Char) : Prop :=
  ∀ name, spellsIdentifier name = true → ¬(Piece.placeholder name).chars <:+: cs

/-- What stands before the first placeholder, and the names of the placeholders, each with
what stands between it and the next one. -/
structure Decomposition where
  lead : List Char
  slots : List (List Char × List Char)

namespace Decomposition

/-- The text with something in the place of each placeholder. -/
def fill (value : List Char → List Char) (decomposition : Decomposition) : List Char :=
  decomposition.lead ++ decomposition.slots.flatMap fun slot => value slot.1 ++ slot.2

/-- The names of the placeholders, one after another. -/
def names (decomposition : Decomposition) : List String :=
  decomposition.slots.map fun slot => String.ofList slot.1

/-- The placeholders of the text are those of the decomposition, and no others. -/
structure IsOf (decomposition : Decomposition) (cs : List Char) : Prop where
  whole : decomposition.fill (fun name => (Piece.placeholder name).chars) = cs
  named : ∀ slot ∈ decomposition.slots, spellsIdentifier slot.1 = true
  lead : IsLiteral decomposition.lead
  between : ∀ slot ∈ decomposition.slots, IsLiteral slot.2

/-- Other names in the placeholders. -/
def rename (change : List Char → List Char) (decomposition : Decomposition) : Decomposition :=
  ⟨decomposition.lead, decomposition.slots.map fun slot => (change slot.1, slot.2)⟩

/-- The pieces of a placeholder and of what follows it. -/
def slotPieces (slot : List Char × List Char) : List Piece :=
  .placeholder slot.1 :: slot.2.map .literal

/-- The pieces of the text. -/
def pieces (decomposition : Decomposition) : List Piece :=
  decomposition.lead.map .literal ++ decomposition.slots.flatMap slotPieces

/-- The decomposition that has the pieces. -/
def ofPieces : List Piece → Decomposition
  | [] => ⟨[], []⟩
  | .literal c :: pieces => ⟨c :: (ofPieces pieces).lead, (ofPieces pieces).slots⟩
  | .placeholder name :: pieces => ⟨[], (name, (ofPieces pieces).lead) :: (ofPieces pieces).slots⟩

end Decomposition

/-! ## Placeholders and what stands around them -/

theorem takeName?_eq_some_iff {cs name rest : List Char} :
    takeName? cs = some (name, rest) ↔
      spellsIdentifier name = true ∧ cs = name ++ '}' :: rest := by
  constructor
  · intro taken
    have whole := takeIdentifier_append cs
    have spelled := @CallForm.spellsIdentifier_takeIdentifier cs
    unfold takeName? at taken
    split at taken
    · rename_i first after split
      rw [split] at whole spelled
      cases empty : first.isEmpty with
      | true => simp [empty] at taken
      | false =>
          simp only [empty, Bool.false_eq_true, if_false, Option.some.injEq,
            Prod.mk.injEq] at taken
          obtain ⟨rfl, rfl⟩ := taken
          exact ⟨spelled empty, whole.symm⟩
    · cases taken
  · intro named
    obtain ⟨spelled, same⟩ := named
    subst same
    have nonempty : name.isEmpty = false :=
      List.isEmpty_eq_false_iff.mpr (CallForm.ne_nil_of_spellsIdentifier spelled)
    unfold takeName?
    rw [CallForm.takeIdentifier_append_of_stops spelled]
    · simp [nonempty]
    · intro c first
      obtain rfl := Option.some.inj first
      decide

theorem pieces_placeholder {name : List Char} (spelled : spellsIdentifier name = true)
    (rest : List Char) :
    pieces ((Piece.placeholder name).chars ++ rest) = .placeholder name :: pieces rest := by
  have taken : takeName? (name ++ '}' :: rest) = some (name, rest) :=
    takeName?_eq_some_iff.mpr ⟨spelled, rfl⟩
  have whole : (Piece.placeholder name).chars ++ rest = '{' :: (name ++ '}' :: rest) := by
    simp [Piece.chars]
  rw [whole, pieces]
  split
  · rename_i found after same
    rw [taken] at same
    cases same
    rfl
  · rename_i none
    rw [taken] at none
    cases none

theorem pieces_literal {c : Char} {rest : List Char}
    (noPlaceholder : c = '{' → takeName? rest = none) :
    pieces (c :: rest) = .literal c :: pieces rest := by
  by_cases brace : c = '{'
  · subst brace
    rw [pieces]
    split
    · rename_i name after taken
      rw [noPlaceholder rfl] at taken
      cases taken
    · rfl
  · rw [pieces]
    exact brace

theorem isLiteral_cons_iff {c : Char} {rest : List Char} :
    IsLiteral (c :: rest) ↔ (c = '{' → takeName? rest = none) ∧ IsLiteral rest := by
  constructor
  · intro isLiteral
    constructor
    · intro brace
      subst brace
      cases taken : takeName? rest with
      | none => rfl
      | some found =>
          obtain ⟨spelled, whole⟩ := takeName?_eq_some_iff.mp taken
          have starts : (Piece.placeholder found.1).chars <+: '{' :: rest := by
            refine ⟨found.2, ?_⟩
            rw [whole]
            simp [Piece.chars]
          exact absurd starts.isInfix (isLiteral found.1 spelled)
    · intro name spelled inRest
      exact isLiteral name spelled (List.infix_cons inRest)
  · intro parts name spelled inText
    rcases List.infix_cons_iff.mp inText with starts | inRest
    · obtain ⟨after, whole⟩ := starts
      simp only [Piece.chars, List.cons_append, List.cons.injEq, List.append_assoc,
        List.nil_append] at whole
      obtain ⟨brace, whole⟩ := whole
      have taken : takeName? rest = some (name, after) :=
        takeName?_eq_some_iff.mpr ⟨spelled, whole.symm⟩
      rw [parts.1 brace.symm] at taken
      cases taken
    · exact parts.2 name spelled inRest

/-- A name that goes on into what follows would hold an opening brace. -/
theorem takeName?_append {cs rest : List Char} (noName : takeName? cs = none)
    (stops : ∀ c, rest.head? = some c → isIdentifierChar c = false ∧ c ≠ '}') :
    takeName? (cs ++ rest) = none := by
  cases taken : takeName? (cs ++ rest) with
  | none => rfl
  | some found =>
      obtain ⟨name, after⟩ := found
      obtain ⟨spelled, whole⟩ := takeName?_eq_some_iff.mp taken
      have split : cs ++ rest = (name ++ ['}']) ++ after := by simpa using whole
      rcases List.append_eq_append_iff.mp split with ⟨more, within, goesOn⟩ | ⟨more, first, _⟩
      · cases more with
        | nil =>
            have ends : takeName? cs = some (name, []) :=
              takeName?_eq_some_iff.mpr ⟨spelled, by simpa using within.symm⟩
            rw [noName] at ends
            cases ends
        | cons c more =>
            obtain ⟨notInName, notEnd⟩ := stops c (by rw [goesOn]; rfl)
            have member : c ∈ name ++ ['}'] := by
              rw [within]
              simp
            rcases List.mem_append.mp member with inName | atEnd
            · rw [CallForm.isIdentifierChar_of_spellsIdentifier spelled c inName] at notInName
              cases notInName
            · exact absurd (List.mem_singleton.mp atEnd) notEnd
      · have ends : takeName? cs = some (name, more) :=
          takeName?_eq_some_iff.mpr ⟨spelled, by simpa using first⟩
        rw [noName] at ends
        cases ends

/-- No placeholder goes over from one text into another that no name goes on into. -/
theorem pieces_append {cs rest : List Char}
    (stops : ∀ c, rest.head? = some c → isIdentifierChar c = false ∧ c ≠ '}') :
    pieces (cs ++ rest) = pieces cs ++ pieces rest := by
  fun_induction pieces cs with
  | case1 => rfl
  | case2 following name after taken _ induction =>
      obtain ⟨spelled, whole⟩ := takeName?_eq_some_iff.mp taken
      have placed := pieces_placeholder spelled (after ++ rest)
      rw [induction] at placed
      simpa [Piece.chars, whole] using placed
  | case3 following noName induction =>
      rw [List.cons_append, pieces_literal fun _ => takeName?_append noName stops, induction]
      rfl
  | case4 c following noBrace induction =>
      rw [List.cons_append, pieces_literal fun brace => absurd brace noBrace, induction]
      rfl

/-- Literal text is read character by character. -/
theorem pieces_of_isLiteral {literal : List Char} (isLiteral : IsLiteral literal) :
    pieces literal = literal.map .literal := by
  induction literal with
  | nil => simp [pieces]
  | cons c literal induction =>
      obtain ⟨noPlaceholder, others⟩ := isLiteral_cons_iff.mp isLiteral
      rw [pieces_literal noPlaceholder, induction others]
      rfl

/-! ## The one decomposition of a text -/

theorem flatMap_chars_pieces (cs : List Char) : (pieces cs).flatMap Piece.chars = cs := by
  fun_induction pieces cs with
  | case1 => rfl
  | case2 rest name after taken _ induction =>
      obtain ⟨_, whole⟩ := takeName?_eq_some_iff.mp taken
      simp [Piece.chars, induction, whole]
  | case3 rest _ induction => simp [Piece.chars, induction]
  | case4 c rest _ induction => simp [Piece.chars, induction]

namespace Decomposition

variable {decomposition : Decomposition} {cs : List Char}

theorem pieces_ofPieces (pieces : List Piece) : (ofPieces pieces).pieces = pieces := by
  induction pieces with
  | nil => rfl
  | cons piece pieces induction =>
      cases piece with
      | literal c => simpa [Decomposition.pieces, ofPieces] using induction
      | placeholder name => simpa [Decomposition.pieces, ofPieces, slotPieces] using induction

theorem ofPieces_literals (literal : List Char) (pieces : List Piece) :
    ofPieces (literal.map .literal ++ pieces) =
      ⟨literal ++ (ofPieces pieces).lead, (ofPieces pieces).slots⟩ := by
  induction literal with
  | nil => rfl
  | cons c literal induction => simp [ofPieces, induction]

theorem ofPieces_pieces (decomposition : Decomposition) :
    ofPieces decomposition.pieces = decomposition := by
  have slots : ∀ slots, ofPieces (slots.flatMap slotPieces) = ⟨[], slots⟩ := by
    intro slots
    induction slots with
    | nil => rfl
    | cons slot slots induction => simp [slotPieces, ofPieces, ofPieces_literals, induction]
  simp [Decomposition.pieces, ofPieces_literals, slots]

/-- What a decomposition is filled with is told piece by piece. -/
theorem flatMap_pieces {write : Piece → List Char} (decomposition : Decomposition)
    (plain : ∀ c, write (.literal c) = [c]) :
    decomposition.pieces.flatMap write =
      decomposition.fill fun name => write (.placeholder name) := by
  have literals : ∀ literal : List Char, (literal.map Piece.literal).flatMap write = literal := by
    intro literal
    induction literal with
    | nil => rfl
    | cons c literal induction => simp [plain, induction]
  simp [Decomposition.pieces, fill, List.flatMap_assoc, slotPieces, literals]

theorem takeName?_of_append {cs more : List Char} (noName : takeName? (cs ++ more) = none) :
    takeName? cs = none := by
  cases taken : takeName? cs with
  | none => rfl
  | some found =>
      obtain ⟨spelled, whole⟩ := takeName?_eq_some_iff.mp taken
      have taken : takeName? (cs ++ more) = some (found.1, found.2 ++ more) :=
        takeName?_eq_some_iff.mpr ⟨spelled, by simp [whole]⟩
      rw [noName] at taken
      cases taken

theorem IsOf.literal {c : Char} (isOf : decomposition.IsOf cs)
    (noPlaceholder : c = '{' → takeName? cs = none) :
    IsOf ⟨c :: decomposition.lead, decomposition.slots⟩ (c :: cs) := by
  have whole := isOf.whole
  constructor
  · rw [← whole]
    rfl
  · exact isOf.named
  · refine isLiteral_cons_iff.mpr ⟨?_, isOf.lead⟩
    intro brace
    apply takeName?_of_append
    rw [← fill, whole]
    exact noPlaceholder brace
  · exact isOf.between

theorem IsOf.placeholder {name : List Char} (isOf : decomposition.IsOf cs)
    (spelled : spellsIdentifier name = true) :
    IsOf ⟨[], (name, decomposition.lead) :: decomposition.slots⟩
      ((Piece.placeholder name).chars ++ cs) := by
  constructor
  · rw [← isOf.whole]
    simp [fill]
  · exact List.forall_mem_cons.mpr ⟨spelled, isOf.named⟩
  · intro other _ inside
    cases List.infix_nil.mp inside
  · exact List.forall_mem_cons.mpr ⟨isOf.lead, isOf.between⟩

theorem isOf_ofPieces (cs : List Char) : (ofPieces (Template.pieces cs)).IsOf cs := by
  fun_induction Template.pieces cs with
  | case1 =>
      constructor
      · rfl
      · intro slot member
        cases member
      · intro name _ inside
        cases List.infix_nil.mp inside
      · intro slot member
        cases member
  | case2 rest name after taken _ induction =>
      obtain ⟨spelled, whole⟩ := takeName?_eq_some_iff.mp taken
      have placed := induction.placeholder spelled
      simpa [ofPieces, Piece.chars, whole] using placed
  | case3 rest noName induction => exact induction.literal fun _ => noName
  | case4 c rest noBrace induction => exact induction.literal fun brace => absurd brace noBrace

theorem head?_slots {slots : List (List Char × List Char)} {c : Char}
    (first : (slots.flatMap fun slot => (Piece.placeholder slot.1).chars ++ slot.2).head? = some c) :
    isIdentifierChar c = false ∧ c ≠ '}' := by
  cases slots with
  | nil => cases first
  | cons slot slots =>
      cases first
      decide

/-- Reading a text that is put together from placeholders and literal text finds them. -/
theorem pieces_of_isOf (isOf : decomposition.IsOf cs) :
    Template.pieces cs = decomposition.pieces := by
  obtain ⟨first, slots⟩ := decomposition
  obtain ⟨rfl, named, lead, between⟩ := isOf
  rw [fill, pieces_append fun c => head?_slots, pieces_of_isLiteral lead, Decomposition.pieces]
  congr 1
  clear lead
  induction slots with
  | nil => simp [Template.pieces]
  | cons slot slots induction =>
      obtain ⟨spelled, others⟩ := List.forall_mem_cons.mp named
      obtain ⟨literal, otherLiterals⟩ := List.forall_mem_cons.mp between
      rw [List.flatMap_cons, List.append_assoc, pieces_placeholder spelled,
        pieces_append fun c => head?_slots, pieces_of_isLiteral literal,
        induction others otherLiterals]
      rfl

theorem IsOf.unique {other : Decomposition} (isOf : decomposition.IsOf cs)
    (otherIsOf : other.IsOf cs) : other = decomposition := by
  rw [← ofPieces_pieces other, ← pieces_of_isOf otherIsOf, pieces_of_isOf isOf, ofPieces_pieces]

end Decomposition

end AgentFlow.Template
