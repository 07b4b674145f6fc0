import AgentFlow.Proofs.Workflow.WrittenForm
import Mathlib.Data.List.Infix

/-!
# Open quotes and braces

A text is read as quoted texts and what stands outside of them.  It is open at its end if
its last quoted text has no closing quote, or if a brace outside of the quoted texts is not
closed by what follows it; a closing brace that closes nothing counts for nothing.  The
scanner, which knows no more than one flag and one number, tells exactly this.
-/

namespace AgentFlow.Statement

open AgentFlow.Text

/-- What stands outside of the quoted texts, and whether the last of them is left open. -/
inductive Outside : List Char → List Char → Bool → Prop where
  | unquoted {text : List Char} : '"' ∉ text → Outside text text false
  | unclosed {before body : List Char} :
      '"' ∉ before → QuotesEscaped body → Outside (before ++ '"' :: body) before true
  | quoted {before body rest outside : List Char} {inQuote : Bool} :
      '"' ∉ before → QuotedBody body → Outside rest outside inQuote →
      Outside (before ++ '"' :: (body ++ '"' :: rest)) (before ++ outside) inQuote

/-- A brace that is not closed: nowhere after it have more braces been closed than opened. -/
def HasOpenBrace (outside : List Char) : Prop :=
  ∃ before after, outside = before ++ '{' :: after ∧
    ∀ part, part <+: after → part.count '}' ≤ part.count '{'

/-- A quoted text or a block in braces is open at the end of the text. -/
def IsOpen (text : List Char) : Prop :=
  ∃ outside inQuote, Outside text outside inQuote ∧ (inQuote = true ∨ HasOpenBrace outside)

/-! ## Braces -/

/-- The number of open braces after one more character. -/
def nextDepth (depth : Nat) (c : Char) : Nat :=
  if c = '{' then depth + 1 else if c = '}' then depth - 1 else depth

theorem nextDepth_open (depth : Nat) : nextDepth depth '{' = depth + 1 := rfl

theorem nextDepth_close (depth : Nat) : nextDepth depth '}' = depth - 1 := rfl

theorem nextDepth_other {c : Char} (noOpen : c ≠ '{') (noClose : c ≠ '}') (depth : Nat) :
    nextDepth depth c = depth := by
  simp [nextDepth, noOpen, noClose]

/-- Of several open braces one stays open: never have more been closed than were open. -/
def StaysOpen (depth : Nat) (outside : List Char) : Prop :=
  ∀ part, part <+: outside → part.count '}' < depth + part.count '{'

theorem staysOpen_one_iff {outside : List Char} :
    StaysOpen 1 outside ↔ ∀ part, part <+: outside → part.count '}' ≤ part.count '{' := by
  simp only [StaysOpen, Nat.lt_one_add_iff]

theorem StaysOpen.pos {depth : Nat} {outside : List Char} (stays : StaysOpen depth outside) :
    0 < depth := by
  have atStart := stays [] List.nil_prefix
  simpa using atStart

theorem StaysOpen.mono {depth more : Nat} {outside : List Char}
    (stays : StaysOpen depth outside) (within : depth ≤ more) : StaysOpen more outside := by
  intro part front
  have counts := stays part front
  omega

theorem staysOpen_nil_iff {depth : Nat} : StaysOpen depth [] ↔ 0 < depth := by
  simp [StaysOpen]

theorem forall_prefix_cons_iff {holds : List Char → Prop} {c : Char} {cs : List Char} :
    (∀ part, part <+: c :: cs → holds part) ↔
      holds [] ∧ ∀ part, part <+: cs → holds (c :: part) := by
  constructor
  · intro all
    refine ⟨all [] List.nil_prefix, ?_⟩
    intro part within
    exact all (c :: part) (List.cons_prefix_cons.mpr ⟨rfl, within⟩)
  · intro both part within
    rcases List.prefix_cons_iff.mp within with rfl | ⟨rest, rfl, withinRest⟩
    · exact both.1
    · exact both.2 rest withinRest

theorem staysOpen_cons_iff {depth : Nat} {c : Char} {outside : List Char} :
    StaysOpen depth (c :: outside) ↔ 0 < depth ∧ StaysOpen (nextDepth depth c) outside := by
  unfold StaysOpen
  rw [forall_prefix_cons_iff]
  simp only [List.count_nil, Nat.add_zero]
  apply and_congr_right
  intro somethingOpen
  apply forall₂_congr
  intro part _
  by_cases opens : c = '{'
  · subst opens
    simp [nextDepth_open]
    omega
  · by_cases closes : c = '}'
    · subst closes
      simp [nextDepth_close]
      omega
    · simp [nextDepth_other opens closes, opens, closes]

theorem hasOpenBrace_cons_iff {c : Char} {outside : List Char} :
    HasOpenBrace (c :: outside) ↔ (c = '{' ∧ StaysOpen 1 outside) ∨ HasOpenBrace outside := by
  rw [staysOpen_one_iff]
  constructor
  · intro hasOpen
    obtain ⟨before, after, split, unclosed⟩ := hasOpen
    cases before with
    | nil =>
        cases split
        exact .inl ⟨rfl, unclosed⟩
    | cons d before =>
        cases split
        exact .inr ⟨before, after, rfl, unclosed⟩
  · intro hasOpen
    rcases hasOpen with ⟨rfl, unclosed⟩ | ⟨before, after, rfl, unclosed⟩
    · exact ⟨[], outside, rfl, unclosed⟩
    · exact ⟨c :: before, after, rfl, unclosed⟩

theorem not_hasOpenBrace_nil : ¬HasOpenBrace [] := by
  intro hasOpen
  obtain ⟨before, after, split, _⟩ := hasOpen
  simp at split

/-- One more character leaves a brace open that was open, or opens one. -/
theorem staysOpen_nextDepth_iff {depth : Nat} {c : Char} {outside : List Char} :
    StaysOpen (nextDepth depth c) outside ↔
      (c = '{' ∧ StaysOpen 1 outside) ∨ (0 < depth ∧ StaysOpen (nextDepth depth c) outside) := by
  constructor
  · intro stays
    by_cases before : 0 < depth
    · exact .inr ⟨before, stays⟩
    · obtain rfl : depth = 0 := by omega
      by_cases opens : c = '{'
      · subst opens
        exact .inl ⟨rfl, stays⟩
      · have noneOpen := stays.pos
        simp [nextDepth, opens] at noneOpen
  · intro either
    rcases either with ⟨rfl, stays⟩ | ⟨_, stays⟩
    · exact stays.mono (Nat.le_add_left 1 depth)
    · exact stays

/-- A brace is open at the end just when one stays open that was open before, or one of
the text does. -/
theorem foldl_nextDepth_pos_iff {outside : List Char} {depth : Nat} :
    0 < outside.foldl nextDepth depth ↔ HasOpenBrace outside ∨ StaysOpen depth outside := by
  induction outside generalizing depth with
  | nil => simp [not_hasOpenBrace_nil, staysOpen_nil_iff]
  | cons c outside induction =>
      rw [List.foldl_cons, induction, hasOpenBrace_cons_iff, staysOpen_cons_iff,
        staysOpen_nextDepth_iff]
      tauto

theorem foldl_nextDepth_zero_pos_iff {outside : List Char} :
    0 < outside.foldl nextDepth 0 ↔ HasOpenBrace outside := by
  rw [foldl_nextDepth_pos_iff]
  apply or_iff_left
  intro stays
  exact absurd stays.pos (Nat.lt_irrefl 0)

/-! ## Quotes -/

namespace ScanState

theorem step_unquoted {c : Char} (noQuote : c ≠ '"') (depth : Nat) (escaped : Bool) :
    step ⟨false, depth⟩ escaped c = ⟨false, nextDepth depth c⟩ := by
  simp only [step, nextDepth, noQuote]
  split
  · contradiction
  · simp only [if_false]
    split
    · rfl
    · split <;> rfl

/-- Outside of quoted texts a backslash makes no difference. -/
theorem scan_unquoted_escaped (depth : Nat) (escaped : Bool) (cs : List Char) :
    scan ⟨false, depth⟩ escaped cs = scan ⟨false, depth⟩ false cs := by
  cases cs with
  | nil => rfl
  | cons c cs => rfl

theorem scan_unquoted_append {before : List Char} (noQuote : '"' ∉ before) (depth : Nat)
    (rest : List Char) :
    scan ⟨false, depth⟩ false (before ++ rest) =
      scan ⟨false, before.foldl nextDepth depth⟩ false rest := by
  induction before generalizing depth with
  | nil => rfl
  | cons c before induction =>
      obtain ⟨first, others⟩ := List.ne_and_not_mem_of_not_mem_cons noQuote
      rw [List.cons_append, scan, step_unquoted (Ne.symm first), scan_unquoted_escaped,
        induction others, List.foldl_cons]

theorem scan_unquoted {before : List Char} (noQuote : '"' ∉ before) (depth : Nat) :
    scan ⟨false, depth⟩ false before = ⟨false, before.foldl nextDepth depth⟩ := by
  have atEnd := scan_unquoted_append noQuote depth []
  rwa [List.append_nil] at atEnd

/-- Inside of a quoted text it makes one for a quote alone. -/
theorem scan_inQuote_escaped {cs : List Char} (noQuote : cs.head? ≠ some '"') (depth : Nat)
    (escaped : Bool) : scan ⟨true, depth⟩ escaped cs = scan ⟨true, depth⟩ false cs := by
  cases cs with
  | nil => rfl
  | cons c cs =>
      have notQuote : c ≠ '"' := by simpa using noQuote
      rw [scan, scan, step_inQuote notQuote, step_inQuote notQuote]

/-- Escaped quotes close nothing. -/
theorem scan_quotesEscaped {body : List Char} (escaped : QuotesEscaped body) (depth : Nat) :
    scan ⟨true, depth⟩ false body = ⟨true, depth⟩ := by
  induction body using unescapeQuotes.induct with
  | case1 => rfl
  | case2 rest induction => exact induction (QuotesEscaped.quote_iff.mp escaped)
  | case3 c rest noEscape induction =>
      have before := escaped.head?_ne_quote noEscape
      have escapedRest := (QuotesEscaped.cons_iff escaped.ne_quote before).mp escaped
      rw [scan, step_inQuote escaped.ne_quote, scan_inQuote_escaped before,
        induction escapedRest]

end ScanState

theorem quotesEscaped_of_takeBody {cs body : List Char} (taken : takeBody cs = (body, [])) :
    QuotesEscaped cs := by
  fun_induction takeBody cs generalizing body with
  | case1 => exact .nil
  | case2 rest first others split induction =>
      cases taken
      exact QuotesEscaped.quote_iff.mpr (induction split)
  | case3 rest _ => cases taken
  | case4 c rest noEscape noQuote first others split induction =>
      cases taken
      have before : rest.head? ≠ some '"' := by
        intro quoteNext
        obtain ⟨after, rfl⟩ := List.head?_eq_some_iff.mp quoteNext
        simp [takeBody] at split
      exact (QuotesEscaped.cons_iff noQuote before).mpr (induction split)

namespace Outside

variable {text outside : List Char} {inQuote : Bool}

/-- Every text is quoted texts and what stands outside of them. -/
theorem exists_outside (text : List Char) : ∃ outside inQuote, Outside text outside inQuote := by
  by_cases hasQuote : '"' ∈ text
  · obtain ⟨before, after, whole, noQuote⟩ := List.eq_append_cons_of_mem hasQuote
    have split := takeBody_append after
    rw [whole]
    cases taken : takeBody after with
    | mk body rest =>
        rw [taken] at split
        cases rest with
        | nil => exact ⟨before, true, .unclosed noQuote (quotesEscaped_of_takeBody taken)⟩
        | cons mark rest =>
            obtain ⟨rfl, quoted⟩ := QuotedBody.of_takeBody taken
            have shorter : rest.length < text.length := by
              rw [whole, ← split]
              simp
              omega
            obtain ⟨outside, inQuote, found⟩ := exists_outside rest
            rw [← split]
            exact ⟨before ++ outside, inQuote, .quoted noQuote quoted found⟩
  · exact ⟨text, false, .unquoted hasQuote⟩
termination_by text.length

/-- The scanner sees the quotes that are open and counts the braces outside of them. -/
theorem scan_eq (found : Outside text outside inQuote) (depth : Nat) :
    ScanState.scan ⟨false, depth⟩ false text = ⟨inQuote, outside.foldl nextDepth depth⟩ := by
  induction found generalizing depth with
  | unquoted noQuote => exact ScanState.scan_unquoted noQuote depth
  | @unclosed before body noQuote escaped =>
      rw [ScanState.scan_unquoted_append noQuote]
      exact ScanState.scan_quotesEscaped escaped _
  | @quoted before body rest outside inQuote noQuote quoted _ induction =>
      rw [ScanState.scan_unquoted_append noQuote, List.foldl_append, ← induction]
      exact ScanState.scan_quotedBody quoted _ rest

theorem closes_iff (found : Outside text outside inQuote) :
    Closes text ↔ inQuote = false ∧ ¬HasOpenBrace outside := by
  rw [← foldl_nextDepth_zero_pos_iff, Closes, ScanState.closed, found.scan_eq,
    ScanState.isClosed, beq_iff_eq, ScanState.closed, ScanState.mk.injEq]
  apply and_congr_right
  intro _
  omega

end Outside

/-- Where the scanner is closed, nothing is open, however the text is read. -/
theorem isOpen_iff_not_closes {text : List Char} : IsOpen text ↔ ¬Closes text := by
  constructor
  · intro isOpen closes
    obtain ⟨outside, inQuote, found, either⟩ := isOpen
    obtain ⟨noQuote, noBrace⟩ := found.closes_iff.mp closes
    rcases either with quoteOpen | braceOpen
    · rw [noQuote] at quoteOpen
      cases quoteOpen
    · exact noBrace braceOpen
  · intro notClosed
    obtain ⟨outside, inQuote, found⟩ := Outside.exists_outside text
    refine ⟨outside, inQuote, found, ?_⟩
    rw [found.closes_iff, not_and_not_right, Bool.eq_false_iff] at notClosed
    by_cases quoteOpen : inQuote = true
    · exact .inl quoteOpen
    · exact .inr (notClosed quoteOpen)

end AgentFlow.Statement
