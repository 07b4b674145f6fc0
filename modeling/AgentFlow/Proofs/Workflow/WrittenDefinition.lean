import AgentFlow.Proofs.Workflow.Macro
import AgentFlow.Proofs.Workflow.WrittenForm

/-!
# Definitions as statements

The scanner and the reader of definitions agree about where a definition ends.  The
field list is passed over with the first brace open, whatever braces, quotes and
backslashes its values hold, so the last brace is the one that closes the statement.
-/

namespace AgentFlow

open AgentFlow.Text

namespace Macro

open Statement Statement.ScanState

theorem isInert_word (field : Field) : ∀ c ∈ field.word.toList, isInert c = true := by
  apply List.all_eq_true.mp
  cases field <;> decide

section

variable {cs key body rest : List Char} {field : Field}

/-- Inside of a block, a field is passed over together with the blanks around it. -/
theorem exists_passes_of_takeField? (taken : takeField? cs = some (key, body, rest))
    (known : Field.ofWord? key = some field) (depth : Nat) :
    ∃ front, cs = front ++ rest ∧ Passes ⟨false, depth + 1⟩ front := by
  obtain ⟨front, afterKey, beforeQuote, afterBody, parts⟩ := takeField?_parts taken
  have isOpen : isClosed ⟨false, depth + 1⟩ = false := by simp [isClosed, closed]
  have blank := parts.blank
  simp only [List.mem_append, or_imp, forall_and] at blank
  obtain ⟨⟨⟨blankFront, blankKey⟩, blankQuote⟩, blankBody⟩ := blank
  have passesKey : Passes ⟨false, depth + 1⟩ key := by
    rw [word_of_ofWord? known]
    exact .ofInert (isInert_word field) (.inr isOpen)
  have passesColon : Passes ⟨false, depth + 1⟩ [':'] :=
    .ofInert (List.forall_mem_singleton.mpr (by decide)) (.inr isOpen)
  refine ⟨_, ?_, (((((Passes.ofBlank blankFront isOpen).append passesKey).append
    (.ofBlank blankKey isOpen)).append passesColon).append
    (.ofBlank blankQuote isOpen)).append
    ((Passes.quoted parts.quoted _).append (.ofBlank blankBody isOpen))⟩
  rw [parts.whole]
  simp

/-- Inside of a block, the field list of a definition is passed over. -/
theorem passes_of_readFields {macroName : String} {block : List Char} {fields all : Fields}
    (read : readFields macroName block fields cs = .ok all) (depth : Nat) :
    Passes ⟨false, depth + 1⟩ cs := by
  fun_induction readFields macroName block fields cs with
  | case1 => cases read
  | case2 => cases read
  | case3 => cases read
  | case4 fields cs key body rest taken field known _ fieldsNow atEnd =>
      obtain ⟨front, whole, passes⟩ := exists_passes_of_takeField? taken known depth
      obtain rfl := List.isEmpty_iff.mp atEnd
      rwa [whole, List.append_nil]
  | case5 fields cs key body rest taken field known _ fieldsNow _ atComma induction =>
      obtain ⟨front, whole, passes⟩ := exists_passes_of_takeField? taken known depth
      obtain ⟨others, rfl⟩ := List.head?_eq_some_iff.mp atComma
      have passesComma : Passes ⟨false, depth + 1⟩ [','] :=
        .ofInert (List.forall_mem_singleton.mpr (by decide)) (.inr (by simp [isClosed, closed]))
      rw [whole]
      exact passes.append (passesComma.append (induction read))
  | case6 => cases read

end

/-- The first brace of the text stands on its first line. -/
def OpensOnFirstLine (text : List Char) : Prop :=
  '\n' ∉ text.takeWhile (· != '{')

variable {text : List Char} {line : Int} {default : Value} {definition : Macro}

theorem isLine_of_opensOnFirstLine {lead block : List Char}
    (opensOnFirstLine : OpensOnFirstLine (lead ++ '{' :: block))
    (onlyNewlines : OnlyNewlines (lead ++ '{' :: block))
    (inert : ∀ c ∈ lead, isInert c = true) : IsLine lead := by
  have leadTaken : (lead ++ '{' :: block).takeWhile (· != '{') = lead := by
    rw [List.takeWhile_append_of_pos]
    · simp
    · intro c member
      have isInert := inert c member
      simp only [ScanState.isInert, Bool.and_eq_true] at isInert
      exact isInert.1.1.2
  rw [OpensOnFirstLine, leadTaken] at opensOnFirstLine
  intro c member
  rw [Bool.eq_false_iff]
  intro boundary
  obtain rfl := onlyNewlines c (List.mem_append_left _ member) boundary
  exact opensOnFirstLine member

/-- A definition is a lead without quotes and braces, and a block that is passed over. -/
theorem exists_lead_of_ofText (defined : ofText text line default = .ok definition) :
    ∃ lead block, text = '$' :: (lead ++ '{' :: (block ++ ['}'])) ∧
      (∀ c ∈ lead, isInert c = true) ∧ Passes ⟨false, 1⟩ block := by
  obtain ⟨name, rest, block, fields, base, prompt, head, taken, read, _⟩ := ofText_eq_ok_iff.mp defined
  obtain ⟨spelled, afterName, whole, blankName⟩ := takeHead?_parts head
  obtain ⟨afterMark, wholeRest, blankMark⟩ := takeBlock?_parts taken
  refine ⟨name ++ (afterName ++ ':' :: '=' :: afterMark), block, ?_, ?_,
    passes_of_readFields read 0⟩
  · rw [whole, wholeRest]
    simp
  · intro c member
    simp only [List.mem_append, List.mem_cons] at member
    rcases member with inName | afterName | rfl | rfl | afterMark
    · exact CallForm.isInert_of_spellsIdentifier spelled c inName
    · exact isInert_of_isBlank (blankName c afterName)
    · decide
    · decide
    · exact isInert_of_isBlank (blankMark c afterMark)

theorem passes_of_ofText (defined : ofText text line default = .ok definition)
    (opensOnFirstLine : OpensOnFirstLine text) (onlyNewlines : OnlyNewlines text) :
    Passes .closed text := by
  obtain ⟨lead, block, rfl, inert, passes⟩ := exists_lead_of_ofText defined
  have inertLead : ∀ c ∈ '$' :: lead, isInert c = true :=
    List.forall_mem_cons.mpr ⟨by decide, inert⟩
  have isLine := isLine_of_opensOnFirstLine opensOnFirstLine onlyNewlines inertLead
  exact (Passes.ofInert inertLead (.inl isLine)).append passes.braces

/-- A definition that opens its block on its first line is one statement. -/
theorem standsAlone_of_parse {text : String} (parsed : parse text line default = .ok definition)
    (isTrimmed : trimmed text = text) (opensOnFirstLine : OpensOnFirstLine text.toList)
    (onlyNewlines : OnlyNewlines text.toList) :
    StandsAlone text.toList ∧ Closes text.toList := by
  have trimSelf : trim text.toList = text.toList := by
    rw [← String.toList_ofList (l := trim text.toList)]
    exact congrArg String.toList isTrimmed
  have defined := mapError_eq_ok_iff.mp parsed
  rw [trimSelf] at defined
  have passes := passes_of_ofText defined opensOnFirstLine onlyNewlines
  obtain ⟨lead, block, whole, _⟩ := exists_lead_of_ofText defined
  refine ⟨⟨?_, ⟨'$', ?_, by decide⟩, onlyNewlines, passes.openAtBreaks⟩, passes.closes⟩
  · rw [← trimSelf]
    exact isTrimmed_trim text.toList
  · rw [whole]
    rfl

end Macro

end AgentFlow
