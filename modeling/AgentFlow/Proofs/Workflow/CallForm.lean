import AgentFlow.Proofs.Text.Blank
import AgentFlow.Proofs.Text.QuotedBody
import AgentFlow.Workflow.CallForm

/-!
# Written call forms

A call form has exactly one written text.  Reading accepts the written texts of the
forms that obey the rules, and nothing else.
-/

namespace AgentFlow

open AgentFlow.Text

namespace CallForm

/-- What follows the closing quote. -/
def outputChars : Option (List Char) → List Char
  | none => []
  | some output => ':' :: output

/-- The written text of a form. -/
def chars (form : CallForm) : List Char :=
  form.name ++ ':' :: '"' :: (form.body ++ '"' :: outputChars form.output)

/-- The rules that the parts of a form obey. -/
structure WellFormed (form : CallForm) : Prop where
  name : spellsIdentifier form.name = true
  body : QuotedBody form.body
  output : ∀ output, form.output = some output → spellsIdentifier output = true

theorem WellFormed.isIdentifier_output {form : CallForm} (wellFormed : form.WellFormed) :
    ∀ name, form.output.map String.ofList = some name → isIdentifier name = true := by
  intro name named
  obtain ⟨chars, written, rfl⟩ := Option.map_eq_some_iff.mp named
  rw [isIdentifier, String.toList_ofList]
  exact wellFormed.output chars written

theorem takeOutput?_eq_some_iff {cs : List Char} {output : Option (List Char)} :
    takeOutput? cs = some output ↔
      cs = outputChars output ∧ ∀ name, output = some name → spellsIdentifier name = true := by
  constructor
  · intro taken
    fun_cases takeOutput? cs with
    | case1 =>
        cases taken
        exact ⟨rfl, nofun⟩
    | case2 name spelled =>
        simp only [takeOutput?, spelled, if_true, Option.some.injEq] at taken
        subst taken
        refine ⟨rfl, ?_⟩
        rintro _ ⟨⟩
        exact spelled
    | case3 name misspelled => simp [takeOutput?, misspelled] at taken
    | case4 notEmpty noColon => simp [takeOutput?] at taken
  · rintro ⟨rfl, spelled⟩
    cases output with
    | none => rfl
    | some name => simp [outputChars, takeOutput?, spelled name rfl]

theorem isIdentifierChar_of_spellsIdentifier {name : List Char}
    (spelled : spellsIdentifier name = true) : ∀ c ∈ name, isIdentifierChar c = true := by
  simp only [spellsIdentifier, Bool.and_eq_true, List.all_eq_true] at spelled
  exact spelled.2

theorem ne_nil_of_spellsIdentifier {name : List Char}
    (spelled : spellsIdentifier name = true) : name ≠ [] := by
  rintro rfl
  cases spelled

theorem takeIdentifier_append_of_stops {name rest : List Char}
    (spelled : spellsIdentifier name = true)
    (stops : ∀ c, rest.head? = some c → isIdentifierChar c = false) :
    takeIdentifier (name ++ rest) = (name, rest) := by
  have inName := isIdentifierChar_of_spellsIdentifier spelled
  unfold takeIdentifier
  rw [takeWhile_append_of_stops inName stops, dropWhile_append_of_stops inName stops]

theorem takeIdentifier_append_colon {name : List Char} (spelled : spellsIdentifier name = true)
    (rest : List Char) : takeIdentifier (name ++ ':' :: rest) = (name, ':' :: rest) := by
  apply takeIdentifier_append_of_stops spelled
  intro c first
  obtain rfl := Option.some.inj first
  decide

theorem spellsIdentifier_takeIdentifier {cs : List Char}
    (nonempty : (takeIdentifier cs).1.isEmpty = false) :
    spellsIdentifier (takeIdentifier cs).1 = true := by
  simp only [spellsIdentifier, nonempty, Bool.not_false, Bool.true_and, List.all_eq_true]
  exact fun c member => List.mem_takeWhile_imp member

theorem read?_chars {form : CallForm} (wellFormed : form.WellFormed) :
    read? form.chars = some form := by
  have afterBody := takeOutput?_eq_some_iff.mpr ⟨rfl, wellFormed.output⟩
  have nonempty : form.name.isEmpty = false :=
    List.isEmpty_eq_false_iff.mpr (ne_nil_of_spellsIdentifier wellFormed.name)
  unfold read? chars
  rw [takeIdentifier_append_colon wellFormed.name]
  simp only [nonempty, wellFormed.body.takeBody_append, afterBody]
  rfl

/-- A text reads as a form just when it is the written text of the form. -/
theorem read?_eq_some_iff {cs : List Char} {form : CallForm} :
    read? cs = some form ↔ form.WellFormed ∧ cs = form.chars := by
  constructor
  · intro taken
    have whole := takeIdentifier_append cs
    unfold read? at taken
    dsimp only at taken
    split at taken
    · cases taken
    · rename_i nonempty
      have spelled := spellsIdentifier_takeIdentifier (Bool.not_eq_true _ ▸ nonempty)
      split at taken
      · rename_i rest colonAndQuote
        split at taken
        · rename_i body mark after split
          obtain ⟨isQuote, quoted⟩ := QuotedBody.of_takeBody split
          have bodyAndAfter := takeBody_append rest
          rw [split, isQuote] at bodyAndAfter
          obtain ⟨output, atEnd, rfl⟩ := Option.map_eq_some_iff.mp taken
          obtain ⟨rfl, outputSpelled⟩ := takeOutput?_eq_some_iff.mp atEnd
          rw [colonAndQuote, ← bodyAndAfter] at whole
          exact ⟨⟨spelled, quoted, outputSpelled⟩, whole.symm⟩
        · cases taken
      · cases taken
  · rintro ⟨wellFormed, rfl⟩
    exact read?_chars wellFormed

theorem not_isBlank_of_getLast?_outputChars {form : CallForm} (wellFormed : form.WellFormed)
    {c : Char} (atEnd : ('"' :: outputChars form.output).getLast? = some c) :
    isBlank c = false := by
  cases output : form.output with
  | none =>
      rw [output] at atEnd
      cases atEnd
      decide
  | some name =>
      have spelled := wellFormed.output name output
      rw [output, outputChars, List.getLast?_cons_cons,
        List.getLast?_cons_of_ne_nil (ne_nil_of_spellsIdentifier spelled)] at atEnd
      exact not_isBlank_of_isIdentifierChar
        (isIdentifierChar_of_spellsIdentifier spelled c (List.mem_of_getLast? atEnd))

/-- A written form has no blanks around it. -/
theorem isTrimmed_chars {form : CallForm} (wellFormed : form.WellFormed) :
    IsTrimmed form.chars where
  first := by
    intro c atStart
    have member : c ∈ form.name := by
      rw [chars, List.head?_append_of_ne_nil _ (ne_nil_of_spellsIdentifier wellFormed.name)]
        at atStart
      exact List.mem_of_head? atStart
    exact not_isBlank_of_isIdentifierChar
      (isIdentifierChar_of_spellsIdentifier wellFormed.name c member)
  last := by
    intro c atEnd
    have split : form.chars =
        (form.name ++ ':' :: '"' :: form.body) ++ '"' :: outputChars form.output := by
      simp [chars]
    rw [split, List.getLast?_append_of_ne_nil _ (List.cons_ne_nil _ _)] at atEnd
    exact not_isBlank_of_getLast?_outputChars wellFormed atEnd

end CallForm

end AgentFlow
