import AgentFlow.Json.Document
import AgentFlow.Json.Reader
import Mathlib.Data.List.TakeWhile

/-!
# Written integers are read back

The digits of a number start with a zero only if they are a single zero, so the
reader takes all of them.  What follows a value in a written document is a comma or a
line feed, or nothing: none of them goes on with the number.
-/

namespace AgentFlow.Json

open AgentFlow.Number

/-- What may follow a value in a written document. -/
def Ends (rest : List Char) : Prop :=
  ∀ c, rest.head? = some c → c = ',' ∨ c = '\n'

theorem ends_cons {c : Char} (separator : c = ',' ∨ c = '\n') (rest : List Char) :
    Ends (c :: rest) := by
  intro d head
  obtain rfl : c = d := by simpa using head
  exact separator

theorem Ends.not_digit {rest : List Char} (ends : Ends rest) :
    ∀ c, rest.head? = some c → c.isDigit = false := by
  intro c head
  rcases ends c head with rfl | rfl
  · rfl
  · rfl

/-! ## Digits -/

theorem digitsValue_eq_ofDigitChars (digits : List Char) :
    digitsValue digits = Nat.ofDigitChars 10 digits 0 := by
  simp [digitsValue, Nat.ofDigitChars_eq_foldl, Nat.mul_comm]

theorem digitsValue_toDigits (n : Nat) : digitsValue (Nat.toDigits 10 n) = n := by
  rw [digitsValue_eq_ofDigitChars, Nat.ofDigitChars_ten_toDigits]

theorem isDigit_toDigits {n : Nat} : ∀ c ∈ Nat.toDigits 10 n, c.isDigit = true :=
  fun _ member => Nat.isDigit_of_mem_toDigits (by decide) (by decide) member

theorem digitChar_ne_zero : ∀ digit, digit < 10 → 0 < digit → Nat.digitChar digit ≠ '0' := by
  decide

theorem toDigits_leading {n : Nat} (positive : 0 < n) :
    ∃ digit digits, Nat.toDigits 10 n = digit :: digits ∧ digit ≠ '0' := by
  induction n using Nat.strongRecOn with
  | ind n induction =>
      by_cases small : n < 10
      · exact ⟨n.digitChar, [], Nat.toDigits_of_lt_base small, digitChar_ne_zero n small positive⟩
      · have large : 10 ≤ n := Nat.not_lt.mp small
        obtain ⟨digit, digits, shape, nonzero⟩ :=
          induction (n / 10) (by omega) (by omega)
        refine ⟨digit, digits ++ [(n % 10).digitChar], ?_, nonzero⟩
        rw [Nat.toDigits_of_base_le (by decide) large, shape, List.cons_append]

theorem length_toDigits_le {n k : Nat} (positive : 0 < k) (short : n < Nat.pow 10 k) :
    (Nat.toDigits 10 n).length ≤ k :=
  (Nat.length_toDigits_le_iff (by decide) positive).mpr short

/-! ## Numbers -/

theorem takeWhile_digits {digits rest : List Char} (areDigits : ∀ c ∈ digits, c.isDigit = true)
    (ends : Ends rest) :
    (digits ++ rest).takeWhile Char.isDigit = digits ∧
      (digits ++ rest).dropWhile Char.isDigit = rest := by
  have restTaken : rest.takeWhile Char.isDigit = [] ∧ rest.dropWhile Char.isDigit = rest := by
    cases rest with
    | nil => exact ⟨rfl, rfl⟩
    | cons c cs =>
        have notDigit := ends.not_digit c rfl
        simp [notDigit]
  rw [List.takeWhile_append_of_pos areDigits, List.dropWhile_append_of_pos areDigits,
    restTaken.1, restTaken.2, List.append_nil]
  exact ⟨rfl, rfl⟩

theorem takeWhole?_toDigits (n : Nat) {rest : List Char} (ends : Ends rest) :
    takeWhole? (Nat.toDigits 10 n ++ rest) = some (Nat.toDigits 10 n, rest) := by
  rcases Nat.eq_zero_or_pos n with rfl | positive
  · rw [Nat.toDigits_zero]
    rfl
  · obtain ⟨digit, digits, shape, nonzero⟩ := toDigits_leading positive
    have areDigits : ∀ c ∈ digit :: digits, c.isDigit = true := shape ▸ isDigit_toDigits
    have taken := takeWhile_digits areDigits ends
    rw [shape]
    rw [List.cons_append] at taken ⊢
    unfold takeWhole?
    split
    · rename_i same
      cases same
      exact absurd rfl nonzero
    · rename_i same
      cases same
      rw [if_pos (areDigits _ List.mem_cons_self), taken.1, taken.2]
    · rename_i same
      cases same

theorem takeFraction_ends {rest : List Char} (ends : Ends rest) : takeFraction rest = none := by
  unfold takeFraction
  split
  · have := ends '.' rfl
    contradiction
  · rfl

theorem takeExponent_ends {rest : List Char} (ends : Ends rest) : takeExponent rest = none := by
  cases rest with
  | nil => rfl
  | cons c cs =>
      rcases ends c rfl with rfl | rfl
      · rfl
      · rfl

theorem readNumber_toDigits (negative : Bool) {n : Nat} {rest : List Char}
    (short : n < Nat.pow 10 maxDigits) (ends : Ends rest) :
    readNumber negative (Nat.toDigits 10 n ++ rest) =
      .ok (.int (if negative then -(n : Int) else n), rest) := by
  unfold readNumber
  rw [takeWhole?_toDigits n ends]
  simp only [takeFraction_ends ends, Option.map_none, Option.getD_none, takeExponent_ends ends,
    Option.isNone_none, Bool.and_self, if_true, digitsValue_toDigits]
  rw [if_neg (Nat.not_lt.mpr (length_toDigits_le (by decide) short))]

/-! ## Words -/

theorem readWord?_digit {c : Char} (isDigit : c.isDigit = true) (cs : List Char) :
    readWord? (c :: cs) = none := by
  have differs {d : Char} (letter : d.isDigit = false) : d ≠ c := by
    rintro rfl
    rw [isDigit] at letter
    cases letter
  simp [readWord?, words, dropWord?, differs]

theorem readWord?_minus {c : Char} (isDigit : c.isDigit = true) (cs : List Char) :
    readWord? ('-' :: c :: cs) = none := by
  have differs : 'I' ≠ c := by
    rintro rfl
    exact absurd isDigit (by decide)
  simp [readWord?, words, dropWord?, differs]

/-! ## Values -/

theorem readValue_digits {n : Nat} {rest : List Char} (short : n < Nat.pow 10 maxDigits)
    (ends : Ends rest) (fuel room : Nat) :
    readValue (fuel + 1) room (Nat.toDigits 10 n ++ rest) = .ok (.int n, rest) := by
  have number := readNumber_toDigits false short ends
  cases shape : Nat.toDigits 10 n with
  | nil => exact absurd shape Nat.toDigits_ne_nil
  | cons c cs =>
      have isDigit : c.isDigit = true := isDigit_toDigits c (shape ▸ List.mem_cons_self)
      have differs {d : Char} (other : d.isDigit = false) : c ≠ d := by
        rintro rfl
        rw [isDigit] at other
        cases other
      rw [shape, List.cons_append] at number
      rw [List.cons_append]
      unfold readValue
      split
      · rename_i same
        exact absurd (List.cons.inj same).1 (differs rfl)
      · rename_i same
        exact absurd (List.cons.inj same).1 (differs rfl)
      · rename_i same
        exact absurd (List.cons.inj same).1 (differs rfl)
      · rw [readWord?_digit isDigit]
        split
        · rename_i same
          cases same
        · split
          · rename_i same
            exact absurd (List.cons.inj same).1 (differs rfl)
          · exact number

theorem readValue_minus {n : Nat} {rest : List Char} (short : n < Nat.pow 10 maxDigits)
    (ends : Ends rest) (fuel room : Nat) :
    readValue (fuel + 1) room ('-' :: Nat.toDigits 10 n ++ rest) = .ok (.int (-n), rest) := by
  have number := readNumber_toDigits true short ends
  cases shape : Nat.toDigits 10 n with
  | nil => exact absurd shape Nat.toDigits_ne_nil
  | cons c cs =>
      have isDigit : c.isDigit = true := isDigit_toDigits c (shape ▸ List.mem_cons_self)
      rw [shape] at number
      have noWord : readWord? ('-' :: (c :: cs) ++ rest) = none := readWord?_minus isDigit _
      unfold readValue
      split
      · rename_i same
        cases same
      · rename_i same
        cases same
      · rename_i same
        cases same
      · rw [noWord]
        exact number

/-- A written integer is read back, whatever room is left. -/
theorem readValue_integer {n : Int} {rest : List Char} (short : n.natAbs < Nat.pow 10 maxDigits)
    (ends : Ends rest) (fuel room : Nat) :
    readValue (fuel + 1) room (integerChars n ++ rest) = .ok (.int n, rest) := by
  cases n with
  | ofNat n => exact readValue_digits short ends fuel room
  | negSucc n => exact readValue_minus short ends fuel room

end AgentFlow.Json
