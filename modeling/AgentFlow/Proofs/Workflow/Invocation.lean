import AgentFlow.Proofs.Result
import AgentFlow.Proofs.Workflow.CallForm
import AgentFlow.Workflow.Invocation

/-!
# Reading and writing invocations

Every invocation has one form, and it can be written unless its instruction ends with
a backslash.  Reading accepts the written text of an invocation, with any blanks
around it, and nothing else; so reading and writing undo one another.
-/

namespace AgentFlow.Invocation

open AgentFlow.Text

/-- The form of an invocation. -/
def form (invocation : Invocation) : CallForm where
  name := invocation.agentName.toList
  body := escapeQuotes invocation.instruction.toList
  output := invocation.output.map String.toList

theorem form_wellFormed {invocation : Invocation}
    (complete : endsWithBackslash invocation.instruction.toList = false) :
    invocation.form.WellFormed where
  name := invocation.agentName_isIdentifier
  body := .escapeQuotes complete
  output := by
    intro output named
    obtain ⟨name, outputName, rfl⟩ := Option.map_eq_some_iff.mp named
    exact invocation.output_isIdentifier name outputName

theorem toList_ne_nil {s : String} (nonempty : s ≠ "") : s.toList ≠ [] := by
  rwa [ne_eq, String.toList_eq_nil_iff]

theorem outputSuffix_eq (output : Option String) :
    outputSuffix output = CallForm.outputChars (output.map String.toList) := by
  cases output <;> rfl

/-- An invocation is written as its form, if it can be written. -/
theorem serialize_eq (invocation : Invocation) :
    invocation.serialize =
      if endsWithBackslash invocation.instruction.toList then .error .trailingBackslash
      else .ok (String.ofList invocation.form.chars) := by
  unfold serialize escape
  split
  · rfl
  · simp [bind, Except.bind, form, CallForm.chars, outputSuffix_eq]

theorem make?_eq_ok_iff {agentName instruction : String} {output : Option String}
    {invocation : Invocation} :
    make? agentName instruction output = .ok invocation ↔
      invocation.agentName = agentName ∧ invocation.instruction = instruction ∧
        invocation.output = output := by
  constructor
  · intro made
    unfold make? at made
    split at made
    · split at made
      · cases made
      · split at made
        · cases made
          exact ⟨rfl, rfl, rfl⟩
        · split at made
          · cases made
            exact ⟨rfl, rfl, rfl⟩
          · cases made
    · cases made
  · rintro ⟨rfl, rfl, rfl⟩
    obtain ⟨agentName, instruction, output, agentValid, nonempty, outputValid⟩ := invocation
    cases output with
    | none => simp [make?, agentValid, nonempty]
    | some name => simp [make?, agentValid, nonempty, outputValid]

theorem exists_make? {agentName instruction : String} {output : Option String}
    (agentValid : isIdentifier agentName = true) (nonempty : instruction ≠ "")
    (outputValid : ∀ name, output = some name → isIdentifier name = true) :
    ∃ invocation, make? agentName instruction output = .ok invocation :=
  ⟨⟨agentName, instruction, output, agentValid, nonempty, outputValid⟩,
    make?_eq_ok_iff.mpr ⟨rfl, rfl, rfl⟩⟩

/-- Which texts read as an invocation: its written text, with blanks around it. -/
theorem parse_eq_ok_iff {line : String} {invocation : Invocation} :
    parse line = .ok invocation ↔
      endsWithBackslash invocation.instruction.toList = false ∧
        trim line.toList = invocation.form.chars := by
  constructor
  · intro parsed
    unfold parse at parsed
    dsimp only at parsed
    split at parsed
    · cases parsed
    · rename_i found read
      split at parsed
      · cases parsed
      · obtain ⟨agentName, instruction, output⟩ :=
          make?_eq_ok_iff.mp (mapError_eq_ok_iff.mp parsed)
        obtain ⟨wellFormed, written⟩ := CallForm.read?_eq_some_iff.mp read
        have sameForm : invocation.form = found := by
          rw [form, agentName, instruction, output]
          simp [wellFormed.body.escapeQuotes_unescapeQuotes, Function.comp_def]
        constructor
        · rw [instruction, String.toList_ofList]
          exact wellFormed.body.endsWithBackslash_unescapeQuotes
        · rw [sameForm, ← written, trimmed, String.toList_ofList]
  · rintro ⟨complete, written⟩
    have read := CallForm.read?_chars (form_wellFormed complete)
    have made : make? (String.ofList invocation.form.name)
        (String.ofList (unescapeQuotes invocation.form.body))
        (invocation.form.output.map String.ofList) = .ok invocation := by
      rw [make?_eq_ok_iff]
      simp [form, unescapeQuotes_escapeQuotes, Function.comp_def]
    have valueNonempty : (unescapeQuotes invocation.form.body).isEmpty = false := by
      simpa [form, unescapeQuotes_escapeQuotes] using toList_ne_nil invocation.instruction_ne_empty
    unfold parse trimmed
    simp only [written, String.toList_ofList, read, valueNonempty, made]
    rfl

theorem serialize_eq_ok_iff {invocation : Invocation} {text : String} :
    invocation.serialize = .ok text ↔
      endsWithBackslash invocation.instruction.toList = false ∧
        text.toList = invocation.form.chars := by
  have sameText : String.ofList invocation.form.chars = text ↔
      text.toList = invocation.form.chars := by
    rw [← String.toList_inj, String.toList_ofList, eq_comm]
  rw [serialize_eq]
  cases endsWithBackslash invocation.instruction.toList with
  | true => simp
  | false => simp [sameText]

/-- What is written reads back. -/
theorem parse_of_serialize {invocation : Invocation} {text : String}
    (serialized : invocation.serialize = .ok text) : parse text = .ok invocation := by
  obtain ⟨complete, written⟩ := serialize_eq_ok_iff.mp serialized
  rw [parse_eq_ok_iff, written]
  exact ⟨complete, trim_eq_self (CallForm.isTrimmed_chars (form_wellFormed complete))⟩

/-- Reading and writing are inverse to one another: whatever is read is written as it
stood, and whatever can be written is read as it was. -/
theorem parse_serialize_inverse :
    (∀ line invocation, parse line = .ok invocation →
      invocation.serialize = .ok (trimmed line)) ∧
    ∀ invocation : Invocation,
      endsWithBackslash invocation.instruction.toList = true ∧
          invocation.serialize = .error .trailingBackslash ∨
        ∃ text, invocation.serialize = .ok text ∧ parse text = .ok invocation := by
  constructor
  · intro line invocation parsed
    obtain ⟨complete, written⟩ := parse_eq_ok_iff.mp parsed
    rw [serialize_eq, complete, trimmed, written]
    rfl
  · intro invocation
    cases complete : endsWithBackslash invocation.instruction.toList with
    | true =>
        refine .inl ⟨rfl, ?_⟩
        rw [serialize_eq, complete]
        rfl
    | false =>
        refine .inr ⟨String.ofList invocation.form.chars, ?_, ?_⟩
        · rw [serialize_eq, complete]
          rfl
        · rw [parse_eq_ok_iff]
          refine ⟨complete, ?_⟩
          rw [String.toList_ofList]
          exact trim_eq_self (CallForm.isTrimmed_chars (form_wellFormed complete))

/-- Two backslashes and a quote: the first backslash stands for itself. -/
theorem serialize_parsed_backslashes :
    (⟨"w", "a\\\"b", some "x", by decide, by decide, by decide⟩ : Invocation).serialize =
      .ok (trimmed " w:\"a\\\\\"b\":x\n") :=
  parse_serialize_inverse.1 _ _ (by rfl)

end AgentFlow.Invocation
