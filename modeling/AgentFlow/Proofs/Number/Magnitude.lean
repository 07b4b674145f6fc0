import AgentFlow.Number.Binary64
import AgentFlow.Number.Integer
import AgentFlow.Proofs.Result
import Mathlib.Algebra.Group.Nat.Defs

/-!
# Sizes of numbers that are read

Whatever notation a number is read from, its integer part has fewer digits than may be
written: an integer because the reader counts its digits, a floating-point number because
its format ends long before.
-/

namespace AgentFlow.Number

/-- An integer that has no more digits than are converted to text. -/
def IsWritable (n : Int) : Prop := n.natAbs < 10 ^ maxDigits

instance (n : Int) : Decidable (IsWritable n) := inferInstanceAs (Decidable (n.natAbs < _))

theorem isWritable_neg {n : Int} : IsWritable (-n) ↔ IsWritable n := by
  rw [IsWritable, IsWritable, Int.natAbs_neg]

/-! ## Digits -/

/-- Digits spell a number below the power of their base that has one digit more. -/
theorem foldl_digits_lt {α : Type} {base : Nat} {value : α → Nat} {digits : List α}
    (areDigits : ∀ digit ∈ digits, value digit < base) (total : Nat) :
    digits.foldl (fun total digit => total * base + value digit) total <
      (total + 1) * base ^ digits.length := by
  induction digits generalizing total with
  | nil => simp
  | cons digit digits induction =>
      obtain ⟨isDigit, others⟩ := List.forall_mem_cons.mp areDigits
      have carried : total * base + value digit + 1 ≤ (total + 1) * base := by
        rw [Nat.add_mul]
        omega
      calc
        _ < (total * base + value digit + 1) * base ^ digits.length := induction others _
        _ ≤ (total + 1) * base * base ^ digits.length := Nat.mul_le_mul_right _ carried
        _ = (total + 1) * base ^ (digit :: digits).length := by
          rw [List.length_cons, Nat.pow_succ', Nat.mul_assoc]

theorem baseDigit?_lt {base value : Nat} {c : Char} (isDigit : baseDigit? base c = some value) :
    value < base := by
  unfold baseDigit? at isDigit
  simpa using (Option.filter_eq_some_iff.mp isDigit).2

theorem lt_of_mem_readDigits? {base : Nat} {afterDigit : Bool} {cs : List Char}
    {digits : List Nat} (read : readDigits? base afterDigit cs = some digits) :
    ∀ digit ∈ digits, digit < base := by
  induction cs generalizing afterDigit digits with
  | nil =>
      unfold readDigits? at read
      split at read
      · cases read
        nofun
      · cases read
  | cons c rest induction =>
      unfold readDigits? at read
      split at read
      · rename_i nothing
        cases nothing
      · rename_i same
        cases same
        split at read
        · exact induction read
        · cases read
      · rename_i same
        cases same
        split at read
        · rename_i value isDigit
          obtain ⟨others, readRest, rfl⟩ := Option.map_eq_some_iff.mp read
          exact List.forall_mem_cons.mpr ⟨baseDigit?_lt isDigit, induction readRest⟩
        · cases read

theorem isWritable_of_readInteger {text : String} {n : Int}
    (read : readInteger 10 text = .ok n) : IsWritable n := by
  unfold readInteger at read
  dsimp only at read
  split at read
  · cases read
  · rename_i digits isDigits
    split at read
    · cases read
    · rename_i notLong
      have short : digits.length ≤ maxDigits :=
        Nat.not_lt.mp fun long => notLong ⟨by decide, long⟩
      have small : ofDigits 10 digits < (0 + 1) * 10 ^ digits.length :=
        @foldl_digits_lt _ 10 id digits (lt_of_mem_readDigits? isDigits) 0
      have writable : IsWritable (ofDigits 10 digits) := by
        have grows : 10 ^ digits.length ≤ 10 ^ maxDigits :=
          Nat.pow_le_pow_right (by decide) short
        rw [Nat.zero_add, Nat.one_mul] at small
        have bounded := Nat.lt_of_lt_of_le small grows
        rwa [IsWritable, Int.natAbs_natCast]
      cases read
      split
      · exact isWritable_neg.mpr writable
      · exact writable

/-! ## Floating-point numbers -/

theorem roundDiv_le (numerator denominator : Nat) :
    roundDiv numerator denominator ≤ numerator / denominator + 1 := by
  unfold roundDiv
  dsimp only
  split
  · exact Nat.le_succ _
  · split
    · exact Nat.le_refl _
    · split
      · exact Nat.le_succ _
      · exact Nat.le_refl _

namespace Binary64

theorem natAbs_truncate {negative : Bool} {mantissa : Nat} {exponent n : Int}
    (truncated : (finite negative mantissa exponent).truncate? = some n) :
    n.natAbs = mantissa * 2 ^ exponent.toNat / 2 ^ (-exponent).toNat := by
  cases truncated
  rw [Int.natAbs_tdiv]
  cases negative with
  | false => rfl
  | true => exact congrArg (· / 2 ^ (-exponent).toNat) (Int.natAbs_neg _)

/-- A quotient that is rounded at a power of two is off by no more than that power. -/
theorem roundDiv_scaled_le (numerator denominator : Nat) {exponent : Int}
    (small : exponent ≤ maxExponent) :
    roundDiv (scaled numerator denominator exponent).1 (scaled numerator denominator exponent).2 *
        2 ^ exponent.toNat / 2 ^ (-exponent).toNat ≤
      numerator / denominator + 2 ^ maxExponent.toNat := by
  unfold scaled
  split
  · rename_i notNegative
    have noDivisor : (-exponent).toNat = 0 := by omega
    have power : 2 ^ exponent.toNat ≤ 2 ^ maxExponent.toNat :=
      Nat.pow_le_pow_right (by decide) (by omega)
    rw [noDivisor, Nat.pow_zero, Nat.div_one]
    calc
      _ ≤ (numerator / (denominator * 2 ^ exponent.toNat) + 1) * 2 ^ exponent.toNat :=
        Nat.mul_le_mul_right _ (roundDiv_le _ _)
      _ = numerator / denominator / 2 ^ exponent.toNat * 2 ^ exponent.toNat +
          2 ^ exponent.toNat := by rw [Nat.add_mul, Nat.one_mul, Nat.div_div_eq_div_mul]
      _ ≤ numerator / denominator + 2 ^ maxExponent.toNat :=
        Nat.add_le_add (Nat.div_mul_le_self _ _) power
  · rename_i negative
    have noFactor : exponent.toNat = 0 := by omega
    have positive : 0 < 2 ^ (-exponent).toNat := Nat.pow_pos (by decide)
    rw [noFactor, Nat.pow_zero, Nat.mul_one]
    calc
      _ ≤ (numerator * 2 ^ (-exponent).toNat / denominator + 2 ^ (-exponent).toNat) /
          2 ^ (-exponent).toNat :=
        Nat.div_le_div_right (Nat.le_trans (roundDiv_le _ _) (Nat.add_le_add_left positive _))
      _ = numerator / denominator + 1 := by
        rw [Nat.add_div_right _ positive, Nat.div_div_eq_div_mul,
          Nat.mul_div_mul_right _ _ positive]
      _ ≤ numerator / denominator + 2 ^ maxExponent.toNat :=
        Nat.add_le_add_left (Nat.pow_pos (by decide)) _

theorem natAbs_truncate_ofRatio {negative : Bool} {numerator denominator : Nat} {n : Int}
    (truncated : (ofRatio negative numerator denominator).truncate? = some n) :
    n.natAbs ≤ numerator / denominator + 2 ^ 53 * 2 ^ maxExponent.toNat := by
  unfold ofRatio at truncated
  split at truncated
  · rw [signedZero] at truncated
    rw [natAbs_truncate truncated, Nat.zero_mul, Nat.zero_div]
    exact Nat.zero_le _
  · dsimp only at truncated
    generalize max _ minExponent = exponent at truncated
    split at truncated
    · dsimp only at truncated
      split at truncated
      · cases truncated
      · rename_i notLarge
        have power : 2 ^ (exponent + 1).toNat ≤ 2 ^ maxExponent.toNat :=
          Nat.pow_le_pow_right (by decide) (by omega)
        rw [natAbs_truncate truncated]
        refine Nat.le_trans (Nat.div_le_self _ _) (Nat.le_add_left_of_le ?_)
        exact Nat.mul_le_mul (by decide) power
    · dsimp only at truncated
      split at truncated
      · cases truncated
      · rename_i notLarge
        rw [natAbs_truncate truncated]
        refine Nat.le_trans (roundDiv_scaled_le _ _ (Int.not_lt.mp notLarge)) ?_
        exact Nat.add_le_add_left (Nat.le_mul_of_pos_left _ (by decide)) _

/-- Digits with a power of ten spell no number that has more digits than are written. -/
theorem natAbs_truncate_ofDecimal {negative : Bool} {digits : Nat} {exponent n : Int}
    (truncated : (ofDecimal negative digits exponent).truncate? = some n) :
    n.natAbs ≤ 10 ^ 400 + 2 ^ 53 * 2 ^ maxExponent.toNat := by
  unfold ofDecimal at truncated
  dsimp only at truncated
  split at truncated
  · rw [signedZero] at truncated
    rw [natAbs_truncate truncated, Nat.zero_mul, Nat.zero_div]
    exact Nat.zero_le _
  · have positive : 0 < (Nat.toDigits 10 digits).length := Nat.length_toDigits_pos
    have bounded : digits < 10 ^ (Nat.toDigits 10 digits).length :=
      (Nat.length_toDigits_le_iff (by decide) positive).mp (Nat.le_refl _)
    generalize (Nat.toDigits 10 digits).length = length at truncated bounded
    split at truncated
    · cases truncated
    · rename_i notLarge
      split at truncated
      · rw [signedZero] at truncated
        rw [natAbs_truncate truncated, Nat.zero_mul, Nat.zero_div]
        exact Nat.zero_le _
      · split at truncated
        · have small : length + exponent.toNat ≤ 400 := by omega
          have quotient : digits * 10 ^ exponent.toNat / 1 ≤ 10 ^ 400 := by
            rw [Nat.div_one]
            calc
              _ ≤ 10 ^ length * 10 ^ exponent.toNat :=
                Nat.mul_le_mul_right _ (Nat.le_of_lt bounded)
              _ = 10 ^ (length + exponent.toNat) := (Nat.pow_add _ _ _).symm
              _ ≤ 10 ^ 400 := Nat.pow_le_pow_right (by decide) small
          have atMost := Nat.add_le_add_right quotient (2 ^ 53 * 2 ^ maxExponent.toNat)
          exact Nat.le_trans (natAbs_truncate_ofRatio truncated) atMost
        · have small : length ≤ (-exponent).toNat + 400 := by omega
          have quotient : digits / 10 ^ (-exponent).toNat ≤ 10 ^ 400 := by
            refine Nat.div_le_of_le_mul ?_
            calc
              _ ≤ 10 ^ length := Nat.le_of_lt bounded
              _ ≤ 10 ^ ((-exponent).toNat + 400) := Nat.pow_le_pow_right (by decide) small
              _ = 10 ^ (-exponent).toNat * 10 ^ 400 := Nat.pow_add _ _ _
          have atMost := Nat.add_le_add_right quotient (2 ^ 53 * 2 ^ maxExponent.toNat)
          exact Nat.le_trans (natAbs_truncate_ofRatio truncated) atMost

theorem isWritable_truncate_ofDecimal {negative : Bool} {digits : Nat} {exponent n : Int}
    (truncated : (ofDecimal negative digits exponent).truncate? = some n) : IsWritable n :=
  Nat.lt_of_le_of_lt (natAbs_truncate_ofDecimal truncated) (by decide +kernel)

end Binary64

end AgentFlow.Number
