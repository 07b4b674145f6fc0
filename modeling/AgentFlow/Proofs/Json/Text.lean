import AgentFlow.Json.Text
import Mathlib.Tactic.SplitIfs

/-!
# Written JSON strings are read back

Every character is written by one of four kinds of escapes or as itself.  Reading
takes exactly the characters of one of them, so a written string is read back whole
in front of any rest.
-/

namespace AgentFlow.Json

open AgentFlow.Text

theorem hexValue?_hexDigit : ∀ value, value < 16 → hexValue? (hexDigit value) = some value := by
  decide

theorem takeUnit?_hexDigits {unit : Nat} (small : unit < 0x10000) (rest : List Char) :
    takeUnit? (hexDigits 4 unit ++ rest) = some (unit, rest) := by
  have digit (n : Nat) : hexValue? (hexDigit (n % 16)) = some (n % 16) :=
    hexValue?_hexDigit _ (Nat.mod_lt _ (by decide))
  have combined :
      ((unit / 16 / 16 / 16 % 16 * 16 + unit / 16 / 16 % 16) * 16 + unit / 16 % 16) * 16 +
        unit % 16 = unit := by
    omega
  simp [hexDigits, takeUnit?, digit, combined]

/-! ## Units and characters -/

theorem toNat_valid (c : Char) :
    c.toNat < 0xD800 ∨ 0xDFFF < c.toNat ∧ c.toNat < 0x110000 := by
  have valid := c.valid
  simp only [UInt32.isValidChar, Nat.isValidChar] at valid
  exact valid

theorem not_surrogate (c : Char) : ¬(0xD800 ≤ c.toNat ∧ c.toNat ≤ 0xDFFF) := by
  have valid := toNat_valid c
  omega

theorem toNat_lt (c : Char) : c.toNat < 0x110000 := by
  have valid := toNat_valid c
  omega

theorem loneUnit_toNat (c : Char) : loneUnit c.toNat = c := by
  have noSurrogate := not_surrogate c
  have notHalf : (isHighUnit c.toNat || isLowUnit c.toNat) = false := by
    simp only [isHighUnit, isLowUnit, Bool.or_eq_false_iff, Bool.and_eq_false_iff,
      decide_eq_false_iff_not]
    omega
  simp [loneUnit, notHalf]

theorem takeCode?_unit {c : Char} (small : c.toNat < 0x10000) (rest : List Char) :
    takeCode? (hexDigits 4 c.toNat ++ rest) = some (c, rest) := by
  have noSurrogate := not_surrogate c
  have notHigh : isHighUnit c.toNat = false := by
    simp only [isHighUnit, Bool.and_eq_false_iff, decide_eq_false_iff_not]
    omega
  simp [takeCode?, takeUnit?_hexDigits small, notHigh, loneUnit_toNat]

theorem takeCode?_halves {high low : Nat} (isHigh : isHighUnit high = true)
    (isLow : isLowUnit low = true) (rest : List Char) :
    takeCode? (hexDigits 4 high ++ (escapeUnit low ++ rest)) =
      some (pairedUnits high low, rest) := by
  have highBounds := isHigh
  have lowBounds := isLow
  simp only [isHighUnit, Bool.and_eq_true, decide_eq_true_eq] at highBounds
  simp only [isLowUnit, Bool.and_eq_true, decide_eq_true_eq] at lowBounds
  have taken : takeLowUnit? (escapeUnit low ++ rest) = some (low, rest) := by
    unfold escapeUnit
    simp [takeLowUnit?, takeUnit?_hexDigits (show low < 0x10000 by omega), isLow]
  unfold takeCode?
  simp [takeUnit?_hexDigits (show high < 0x10000 by omega), isHigh, taken]

theorem halves_of_large {c : Char} (large : 0x10000 ≤ c.toNat) :
    isHighUnit (0xD800 + (c.toNat - 0x10000) / 0x400) = true ∧
      isLowUnit (0xDC00 + (c.toNat - 0x10000) % 0x400) = true ∧
      pairedUnits (0xD800 + (c.toNat - 0x10000) / 0x400)
        (0xDC00 + (c.toNat - 0x10000) % 0x400) = c := by
  have bound := toNat_lt c
  refine ⟨?_, ?_, ?_⟩
  · simp only [isHighUnit, Bool.and_eq_true, decide_eq_true_eq]
    omega
  · simp only [isLowUnit, Bool.and_eq_true, decide_eq_true_eq]
    omega
  · unfold pairedUnits
    rw [show 0x10000 + (0xD800 + (c.toNat - 0x10000) / 0x400 - 0xD800) * 0x400 +
      (0xDC00 + (c.toNat - 0x10000) % 0x400 - 0xDC00) = c.toNat by omega, Char.ofNat_toNat]

/-- How a character is written: with a letter, as it is, or by the code of one unit or of two. -/
inductive Encodes (c : Char) : List Char → Prop
  | letter {letter : Char} : letterEscape? letter = some c → letter ≠ 'u' →
      0x20 ≤ letter.toNat ∧ letter.toNat ≤ 0x7E → Encodes c ['\\', letter]
  | plain : c ≠ '"' → c ≠ '\\' → 0x20 ≤ c.toNat ∧ c.toNat ≤ 0x7E → Encodes c [c]
  | unit : c.toNat < 0x10000 → Encodes c (escapeUnit c.toNat)
  | halves {high low : Nat} : isHighUnit high = true → isLowUnit low = true →
      pairedUnits high low = c → Encodes c (escapeUnit high ++ escapeUnit low)

theorem encodes_encodeChar (c : Char) : Encodes c (encodeChar c) := by
  unfold encodeChar
  split_ifs with quote backslash newline return_ tab backspace formFeed printable small
  · subst quote
    exact .letter rfl (by decide) (by decide)
  · subst backslash
    exact .letter rfl (by decide) (by decide)
  · subst newline
    exact .letter rfl (by decide) (by decide)
  · subst return_
    exact .letter rfl (by decide) (by decide)
  · subst tab
    exact .letter rfl (by decide) (by decide)
  · obtain rfl : c = '\x08' := Char.toNat_inj.mp backspace
    exact .letter rfl (by decide) (by decide)
  · obtain rfl : c = '\x0C' := Char.toNat_inj.mp formFeed
    exact .letter rfl (by decide) (by decide)
  · exact .plain quote backslash printable
  · exact .unit small
  · obtain ⟨isHigh, isLow, paired⟩ := halves_of_large (Nat.not_lt.mp small)
    exact .halves isHigh isLow paired

/-! ## Strings -/

theorem decodeString?_backslash {rest after : List Char} {c : Char}
    (taken : takeEscape? rest = some (c, after)) :
    decodeString? ('\\' :: rest) =
      (decodeString? after).map fun (text, others) => (c :: text, others) := by
  rw [decodeString?]
  split
  · rename_i notTaken
    rw [taken] at notTaken
    cases notTaken
  · rename_i d others otherTaken
    rw [taken] at otherTaken
    cases otherTaken
    rfl

theorem decodeString?_plain {c : Char} (noQuote : c ≠ '"') (noEscape : c ≠ '\\')
    (noControl : 0x20 ≤ c.toNat) (rest : List Char) :
    decodeString? (c :: rest) =
      (decodeString? rest).map fun (text, others) => (c :: text, others) := by
  rw [decodeString?]
  · rw [if_neg (Nat.not_lt.mpr noControl)]
  · exact fun same => absurd same noQuote
  · exact fun same => absurd same noEscape

theorem takeEscape?_letter {letter c : Char} (means : letterEscape? letter = some c)
    (noCode : letter ≠ 'u') (rest : List Char) :
    takeEscape? (letter :: rest) = some (c, rest) := by
  simp [takeEscape?, noCode, means]

theorem decodeString?_encodeChar (c : Char) (rest : List Char) :
    decodeString? (encodeChar c ++ rest) =
      (decodeString? rest).map fun (text, others) => (c :: text, others) := by
  have encodes := encodes_encodeChar c
  generalize encodeChar c = written at encodes ⊢
  cases encodes with
  | letter means noCode => exact decodeString?_backslash (takeEscape?_letter means noCode rest)
  | plain noQuote noEscape printable =>
      exact decodeString?_plain noQuote noEscape printable.1 rest
  | unit small =>
      refine decodeString?_backslash ?_
      simpa [takeEscape?] using takeCode?_unit small rest
  | halves isHigh isLow paired =>
      rw [List.append_assoc]
      refine decodeString?_backslash ?_
      simpa [takeEscape?, paired] using takeCode?_halves isHigh isLow rest

/-- A written string is read back, and reading stops behind its closing quote. -/
theorem decodeString?_encode (cs rest : List Char) :
    decodeString? (cs.flatMap encodeChar ++ '"' :: rest) = some (cs, rest) := by
  induction cs with
  | nil => rw [List.flatMap_nil, List.nil_append, decodeString?]
  | cons c cs induction =>
      rw [List.flatMap_cons, List.append_assoc, decodeString?_encodeChar, induction]
      rfl

/-! ## Written characters -/

theorem hexDigit_bounds : ∀ value, value < 16 →
    0x20 ≤ (hexDigit value).toNat ∧ (hexDigit value).toNat ≤ 0x7E := by
  decide

theorem hexDigits_bounds {width unit : Nat} :
    ∀ c ∈ hexDigits width unit, 0x20 ≤ c.toNat ∧ c.toNat ≤ 0x7E := by
  induction width generalizing unit with
  | zero => nofun
  | succ width induction =>
      intro c member
      rcases List.mem_append.mp member with before | last
      · exact induction c before
      · obtain rfl := List.mem_singleton.mp last
        exact hexDigit_bounds _ (Nat.mod_lt _ (by decide))

theorem escapeUnit_bounds {unit : Nat} :
    ∀ c ∈ escapeUnit unit, 0x20 ≤ c.toNat ∧ c.toNat ≤ 0x7E :=
  List.forall_mem_cons.mpr ⟨by decide, List.forall_mem_cons.mpr ⟨by decide, hexDigits_bounds⟩⟩

/-- A string is written in printable ASCII. -/
theorem encodeChar_bounds (d : Char) :
    ∀ c ∈ encodeChar d, 0x20 ≤ c.toNat ∧ c.toNat ≤ 0x7E := by
  have encodes := encodes_encodeChar d
  generalize encodeChar d = written at encodes ⊢
  cases encodes with
  | letter _ _ bounds =>
      exact List.forall_mem_cons.mpr ⟨by decide, List.forall_mem_singleton.mpr bounds⟩
  | plain _ _ printable => exact List.forall_mem_singleton.mpr printable
  | unit => exact escapeUnit_bounds
  | halves => exact List.forall_mem_append.mpr ⟨escapeUnit_bounds, escapeUnit_bounds⟩

end AgentFlow.Json
