import AgentFlow.Proofs.Workflow.Invocation

/-!
# The grammar of invocations

A line is an invocation just when, without the blanks around it, it is a name, a body in
quotes and perhaps the name of an output, put together with colons.  A line has at most one
such form, and a line that has none is refused as malformed: no rule of the record is left
to be broken by what was read.
-/

namespace AgentFlow

open AgentFlow.Text

namespace CallForm

/-- The forms of invocations: names of one or more characters that names may have, and a body
that is not empty, whose quotes are escaped and which does not escape the closing one. -/
structure Grammatical (form : CallForm) : Prop where
  name : form.name ≠ [] ∧ ∀ c ∈ form.name, isIdentifierChar c = true
  nonempty : form.body ≠ []
  escaped : QuotesEscaped form.body
  complete : endsWithBackslash form.body = false
  output : ∀ name, form.output = some name → name ≠ [] ∧ ∀ c ∈ name, isIdentifierChar c = true

theorem spellsIdentifier_iff {cs : List Char} :
    spellsIdentifier cs = true ↔ cs ≠ [] ∧ ∀ c ∈ cs, isIdentifierChar c = true := by
  simp [spellsIdentifier]

theorem grammatical_iff {form : CallForm} :
    form.Grammatical ↔ form.WellFormed ∧ form.body ≠ [] := by
  constructor
  · rintro ⟨name, nonempty, escaped, complete, output⟩
    exact ⟨⟨spellsIdentifier_iff.mpr name, quotedBody_iff.mpr ⟨escaped, complete⟩,
      fun named same => spellsIdentifier_iff.mpr (output named same)⟩, nonempty⟩
  · rintro ⟨⟨name, body, output⟩, nonempty⟩
    obtain ⟨escaped, complete⟩ := quotedBody_iff.mp body
    exact ⟨spellsIdentifier_iff.mp name, nonempty, escaped, complete,
      fun named same => spellsIdentifier_iff.mp (output named same)⟩

/-- A text has at most one form. -/
theorem Grammatical.eq_of_chars {form other : CallForm} (grammatical : form.Grammatical)
    (otherGrammatical : other.Grammatical) (sameChars : form.chars = other.chars) :
    form = other := by
  have read := read?_chars (grammatical_iff.mp grammatical).1
  rw [sameChars, read?_chars (grammatical_iff.mp otherGrammatical).1] at read
  exact (Option.some.inj read).symm

end CallForm

namespace Invocation

/-- What a form means. -/
structure Means (form : CallForm) (invocation : Invocation) : Prop where
  agentName : invocation.agentName = String.ofList form.name
  instruction : invocation.instruction = String.ofList (unescapeQuotes form.body)
  output : invocation.output = form.output.map String.ofList

/-- Every form of the grammar makes an invocation that obeys the rules of the record. -/
theorem exists_means {form : CallForm} (grammatical : form.Grammatical) :
    ∃ invocation, Means form invocation := by
  obtain ⟨wellFormed, nonempty⟩ := CallForm.grammatical_iff.mp grammatical
  have agentValid : isIdentifier (String.ofList form.name) = true := by
    rw [isIdentifier, String.toList_ofList]
    exact wellFormed.name
  have instructionNonempty : String.ofList (unescapeQuotes form.body) ≠ "" := by
    rwa [ne_eq, ← String.toList_eq_nil_iff, String.toList_ofList, unescapeQuotes_eq_nil_iff]
  exact ⟨⟨_, _, _, agentValid, instructionNonempty, wellFormed.isIdentifier_output⟩, rfl, rfl, rfl⟩

theorem Means.form_eq {form : CallForm} {invocation : Invocation} (means : Means form invocation)
    (grammatical : form.Grammatical) : invocation.form = form := by
  have body := (CallForm.grammatical_iff.mp grammatical).1.body
  rw [Invocation.form, means.agentName, means.instruction, means.output]
  simp [body.escapeQuotes_unescapeQuotes, Function.comp_def]

/-- A line in a form of the grammar reads as what the form means. -/
theorem Means.parse_eq {form : CallForm} {invocation : Invocation} {line : String}
    (means : Means form invocation) (grammatical : form.Grammatical)
    (written : trim line.toList = form.chars) : parse line = .ok invocation := by
  refine parse_eq_ok_iff.mpr ⟨?_, ?_⟩
  · rw [means.instruction, String.toList_ofList]
    exact (CallForm.grammatical_iff.mp grammatical).1.body.endsWithBackslash_unescapeQuotes
  · rw [means.form_eq grammatical, written]

/-- The form of an invocation that was read is in the grammar. -/
theorem form_grammatical {invocation : Invocation}
    (complete : endsWithBackslash invocation.instruction.toList = false) :
    invocation.form.Grammatical := by
  refine CallForm.grammatical_iff.mpr ⟨form_wellFormed complete, ?_⟩
  rw [form, ne_eq, escapeQuotes_eq_nil_iff]
  exact toList_ne_nil invocation.instruction_ne_empty

/-- What is no invocation is refused for its text. -/
theorem malformed_of_parse {line : String} {e : Error} (failed : parse line = .error e) :
    ∃ fault, e = .malformed fault .unplaced (trimmed line) := by
  cases read : CallForm.read? (trimmed line).toList with
  | none =>
      unfold parse at failed
      dsimp only at failed
      rw [read] at failed
      cases failed
      exact ⟨_, rfl⟩
  | some form =>
      obtain ⟨wellFormed, written⟩ := CallForm.read?_eq_some_iff.mp read
      cases body : form.body with
      | nil =>
          unfold parse at failed
          dsimp only at failed
          rw [read] at failed
          simp only [body, unescapeQuotes] at failed
          cases failed
          exact ⟨_, rfl⟩
      | cons c rest =>
          have nonempty : form.body ≠ [] := by simp [body]
          have grammatical := CallForm.grammatical_iff.mpr ⟨wellFormed, nonempty⟩
          obtain ⟨invocation, means⟩ := exists_means grammatical
          rw [trimmed, String.toList_ofList] at written
          rw [means.parse_eq grammatical written] at failed
          cases failed

/-- A line is read just when it has a form of the grammar, as what its only form means;
any other line is refused as malformed. -/
theorem parse_grammar (line : String) :
    ((∃ invocation, parse line = .ok invocation) ↔
      ∃ form : CallForm, form.Grammatical ∧ trim line.toList = form.chars) ∧
    (∀ form : CallForm, form.Grammatical → trim line.toList = form.chars →
      (∀ other : CallForm, other.Grammatical → trim line.toList = other.chars → other = form) ∧
      ∃ invocation, parse line = .ok invocation ∧ Means form invocation) ∧
    ∀ e, parse line = .error e → ∃ fault, e = .malformed fault .unplaced (trimmed line) := by
  have reads : ∀ form : CallForm, form.Grammatical → trim line.toList = form.chars →
      ∃ invocation, parse line = .ok invocation ∧ Means form invocation := by
    intro form grammatical written
    obtain ⟨invocation, means⟩ := exists_means grammatical
    exact ⟨invocation, means.parse_eq grammatical written, means⟩
  refine ⟨⟨?_, ?_⟩, fun form grammatical written => ⟨?_, reads form grammatical written⟩,
    fun e failed => malformed_of_parse failed⟩
  · rintro ⟨invocation, parsed⟩
    obtain ⟨complete, written⟩ := parse_eq_ok_iff.mp parsed
    exact ⟨invocation.form, form_grammatical complete, written⟩
  · rintro ⟨form, grammatical, written⟩
    obtain ⟨invocation, parsed, -⟩ := reads form grammatical written
    exact ⟨invocation, parsed⟩
  · intro other otherGrammatical otherWritten
    exact otherGrammatical.eq_of_chars grammatical (otherWritten.symm.trans written)

/-- Two backslashes and a quote inside of the body, blanks around the line. -/
theorem parse_grammar_backslashes :
    ∃ invocation, parse " w:\"a\\\\\"b\":x\n" = .ok invocation ∧
      Means ⟨['w'], ['a', '\\', '\\', '"', 'b'], some ['x']⟩ invocation := by
  have body : QuotedBody ['a', '\\', '\\', '"', 'b'] :=
    .plain (by decide) (by decide)
      (.backslash (by decide) (.quote (.plain (by decide) (by decide) .nil)))
  refine ((parse_grammar _).2.1 _ (CallForm.grammatical_iff.mpr ⟨⟨rfl, body, ?_⟩, ?_⟩) rfl).2
  · rintro name ⟨⟩
    rfl
  · exact List.cons_ne_nil _ _

end Invocation

end AgentFlow
