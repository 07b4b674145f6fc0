import AgentFlow.Proofs.Workflow.CallForm
import AgentFlow.Proofs.Workflow.Statement

/-!
# Written forms as statements

The scanner of statements and the reader of forms agree about quotes: a body leaves
the scanner inside of the quoted text, and the closing quote takes it out.  Hence the
written text of a form is one statement, however many lines its body has.
-/

namespace AgentFlow

open AgentFlow.Text

namespace Statement.ScanState

theorem step_inQuote {c : Char} (noQuote : c ≠ '"') (depth : Nat) (escaped : Bool) :
    step ⟨true, depth⟩ escaped c = ⟨true, depth⟩ := by
  simp [step, noQuote]

theorem scan_quotedBody {body : List Char} (quoted : QuotedBody body) (depth : Nat)
    (rest : List Char) :
    scan ⟨true, depth⟩ false (body ++ '"' :: rest) = scan ⟨false, depth⟩ false rest := by
  induction quoted with
  | nil => rfl
  | quote _ induction =>
      rw [← induction]
      rfl
  | backslash noQuote _ induction =>
      rw [← induction]
      simp [scan, step_inQuote noQuote, step_inQuote (c := '\\') (by decide)]
  | @plain c rest noQuote noEscape _ induction =>
      have noBackslash : (c == '\\') = false := by simpa using noEscape
      rw [← induction, List.cons_append, scan, step_inQuote noQuote, noBackslash]

theorem openAtBreaks_quotedBody {body : List Char} (quoted : QuotedBody body) {depth : Nat}
    {rest : List Char} (after : OpenAtBreaks ⟨false, depth⟩ false rest) :
    OpenAtBreaks ⟨true, depth⟩ false (body ++ '"' :: rest) := by
  have inQuote : isClosed ⟨true, depth⟩ = false := rfl
  induction quoted with
  | nil => exact ⟨fun _ => inQuote, after⟩
  | quote _ induction => exact ⟨fun _ => inQuote, fun _ => inQuote, induction⟩
  | @backslash c rest noQuote _ induction =>
      obtain ⟨_, tail⟩ := induction
      refine ⟨fun _ => inQuote, fun _ => inQuote, ?_⟩
      rw [step_inQuote noQuote] at tail
      rwa [step_inQuote (by decide), step_inQuote noQuote]
  | @plain c rest noQuote noEscape _ induction =>
      have noBackslash : (c == '\\') = false := by simpa using noEscape
      refine ⟨fun _ => inQuote, ?_⟩
      rwa [step_inQuote noQuote, noBackslash]

theorem openAtBreaks_isInert_append {state : ScanState} {inert rest : List Char}
    (allInert : ∀ c ∈ inert, isInert c = true)
    (lineOrOpen : IsLine inert ∨ state.isClosed = false)
    (after : OpenAtBreaks state false rest) : OpenAtBreaks state false (inert ++ rest) := by
  induction inert with
  | nil => exact after
  | cons c inert induction =>
      obtain ⟨first, others⟩ := List.forall_mem_cons.mp allInert
      constructor
      · rcases lineOrOpen with isLine | isOpen
        · exact fun same => absurd same (isLine.ne_newline c List.mem_cons_self)
        · exact fun _ => isOpen
      · rw [step_of_isInert first, beq_backslash_of_isInert first]
        apply induction others
        exact lineOrOpen.imp_left fun isLine d member => isLine d (List.mem_cons_of_mem c member)

/-- Scanning passes over the text: nothing has changed behind it, and something is open at
each of its line feeds. -/
structure Passes (state : ScanState) (cs : List Char) : Prop where
  scan_append : ∀ rest, state.scan false (cs ++ rest) = state.scan false rest
  openAtBreaks_append : ∀ rest,
    OpenAtBreaks state false rest → OpenAtBreaks state false (cs ++ rest)

namespace Passes

variable {state : ScanState}

theorem append {first second : List Char} (passesFirst : Passes state first)
    (passesSecond : Passes state second) : Passes state (first ++ second) where
  scan_append rest := by
    rw [List.append_assoc, passesFirst.scan_append, passesSecond.scan_append]
  openAtBreaks_append rest after := by
    rw [List.append_assoc]
    apply passesFirst.openAtBreaks_append
    exact passesSecond.openAtBreaks_append rest after

theorem ofInert {inert : List Char} (allInert : ∀ c ∈ inert, isInert c = true)
    (lineOrOpen : IsLine inert ∨ state.isClosed = false) : Passes state inert where
  scan_append := scan_isInert_append allInert state
  openAtBreaks_append _ after := openAtBreaks_isInert_append allInert lineOrOpen after

theorem ofBlank {blanks : List Char} (blank : ∀ c ∈ blanks, isBlank c = true)
    (isOpen : state.isClosed = false) : Passes state blanks := by
  apply ofInert _ (.inr isOpen)
  intro c member
  exact isInert_of_isBlank (blank c member)

theorem quoted {body : List Char} (quotedBody : QuotedBody body) (depth : Nat) :
    Passes ⟨false, depth⟩ ('"' :: (body ++ ['"'])) where
  scan_append rest := by
    rw [List.cons_append, List.append_assoc]
    exact scan_quotedBody quotedBody depth rest
  openAtBreaks_append rest after := by
    rw [List.cons_append, List.append_assoc]
    constructor
    · intro same
      cases same
    · exact openAtBreaks_quotedBody quotedBody after

/-- A block in braces is passed over when its inside is. -/
theorem braces {depth : Nat} {block : List Char} (passes : Passes ⟨false, depth + 1⟩ block) :
    Passes ⟨false, depth⟩ ('{' :: (block ++ ['}'])) where
  scan_append rest := by
    rw [List.cons_append, List.append_assoc]
    exact passes.scan_append ('}' :: rest)
  openAtBreaks_append rest after := by
    rw [List.cons_append, List.append_assoc]
    constructor
    · intro same
      cases same
    · apply passes.openAtBreaks_append
      constructor
      · intro same
        cases same
      · exact after

theorem closes {cs : List Char} (passes : Passes .closed cs) : Closes cs := by
  have atEnd := passes.scan_append []
  rw [List.append_nil] at atEnd
  unfold Closes
  rw [atEnd]
  rfl

theorem openAtBreaks {cs : List Char} (passes : Passes state cs) :
    OpenAtBreaks state false cs := by
  have atEnd := passes.openAtBreaks_append [] trivial
  rwa [List.append_nil] at atEnd

end Passes

end Statement.ScanState

namespace CallForm

open Statement Statement.ScanState

theorem isLine_of_spellsIdentifier {name : List Char} (spelled : spellsIdentifier name = true) :
    IsLine name := by
  intro c member
  exact not_isLineBoundary_of_isIdentifierChar
    (isIdentifierChar_of_spellsIdentifier spelled c member)

theorem isInert_of_spellsIdentifier {name : List Char} (spelled : spellsIdentifier name = true) :
    ∀ c ∈ name, isInert c = true := by
  intro c member
  exact isInert_of_isIdentifierChar (isIdentifierChar_of_spellsIdentifier spelled c member)

variable {form : CallForm}

theorem isLine_outputChars (wellFormed : form.WellFormed) : IsLine (outputChars form.output) := by
  cases output : form.output with
  | none => exact nofun
  | some name =>
      have isLine := isLine_of_spellsIdentifier (wellFormed.output name output)
      exact List.forall_mem_cons.mpr ⟨by decide, isLine⟩

theorem isInert_outputChars (wellFormed : form.WellFormed) :
    ∀ c ∈ outputChars form.output, isInert c = true := by
  cases output : form.output with
  | none => exact nofun
  | some name =>
      have inert := isInert_of_spellsIdentifier (wellFormed.output name output)
      exact List.forall_mem_cons.mpr ⟨by decide, inert⟩

theorem chars_eq_lead_append (form : CallForm) :
    form.chars = (form.name ++ [':']) ++ '"' :: (form.body ++ '"' :: outputChars form.output) := by
  simp [chars]

theorem isInert_lead (wellFormed : form.WellFormed) :
    ∀ c ∈ form.name ++ [':'], isInert c = true := by
  intro c member
  rcases List.mem_append.mp member with inName | colon
  · exact isInert_of_spellsIdentifier wellFormed.name c inName
  · obtain rfl := List.mem_singleton.mp colon
    decide

theorem isLine_lead (wellFormed : form.WellFormed) : IsLine (form.name ++ [':']) := by
  intro c member
  rcases List.mem_append.mp member with inName | colon
  · exact isLine_of_spellsIdentifier wellFormed.name c inName
  · obtain rfl := List.mem_singleton.mp colon
    decide

/-- The scanner passes over the written text of a form. -/
theorem passes_chars (wellFormed : form.WellFormed) : Passes .closed form.chars := by
  have lead : Passes .closed (form.name ++ [':']) :=
    .ofInert (isInert_lead wellFormed) (.inl (isLine_lead wellFormed))
  have output : Passes .closed (outputChars form.output) :=
    .ofInert (isInert_outputChars wellFormed) (.inl (isLine_outputChars wellFormed))
  have whole := (lead.append (.quoted wellFormed.body 0)).append output
  simpa [chars] using whole

theorem onlyNewlines_chars (wellFormed : form.WellFormed) (bodyOnly : OnlyNewlines form.body) :
    OnlyNewlines form.chars := by
  have atEnd : OnlyNewlines ('"' :: outputChars form.output) :=
    .cons (by decide) (isLine_outputChars wellFormed).onlyNewlines
  rw [chars_eq_lead_append]
  exact (isLine_lead wellFormed).onlyNewlines.append (.cons (by decide) (bodyOnly.append atEnd))

theorem body_subset_chars (form : CallForm) : form.body ⊆ form.chars := by
  intro c member
  simp [chars, member]

theorem head?_chars (wellFormed : form.WellFormed) :
    ∃ c, form.chars.head? = some c ∧ isIdentifierChar c = true := by
  obtain ⟨c, rest, name⟩ :=
    List.exists_cons_of_ne_nil (ne_nil_of_spellsIdentifier wellFormed.name)
  refine ⟨c, by simp [chars, name], ?_⟩
  exact isIdentifierChar_of_spellsIdentifier wellFormed.name c (by simp [name])

/-- The written text of a form is one statement. -/
theorem standsAlone_chars (wellFormed : form.WellFormed) (bodyOnly : OnlyNewlines form.body) :
    StandsAlone form.chars where
  trimmed := isTrimmed_chars wellFormed
  starts := by
    obtain ⟨c, first, inName⟩ := head?_chars wellFormed
    refine ⟨c, first, ?_⟩
    rintro rfl
    cases inName
  onlyNewlines := onlyNewlines_chars wellFormed bodyOnly
  unbroken := (passes_chars wellFormed).openAtBreaks

end CallForm

end AgentFlow
