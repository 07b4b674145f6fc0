import AgentFlow.Value.Display
import Mathlib.Logic.Basic

/-!
# What a shown value is not

Whatever counts as given is shown by at least one character, so an empty field of a
data file never stands for a value that was given.
-/

namespace AgentFlow

open AgentFlow.Number

namespace Number

theorem integerChars_ne_nil (n : Int) : integerChars n ≠ [] := by
  cases n with
  | ofNat n => exact Nat.toDigits_ne_nil
  | negSucc n => nofun

theorem positional_ne_nil (digits : List Char) (places : Int) : positional digits places ≠ [] := by
  unfold positional
  split
  · simp
  · split <;> simp

theorem scientific_ne_nil (digits : List Char) (power : Int) : scientific digits power ≠ [] := by
  simp [scientific]

theorem chars_ne_nil (x : Binary64) : x.chars ≠ [] := by
  cases x with
  | nan => nofun
  | infinite negative => simp [Binary64.chars]
  | finite negative mantissa exponent =>
      unfold Binary64.chars
      simp only [ne_eq, List.append_eq_nil_iff, not_and]
      intro _
      split
      · nofun
      · split
        · exact positional_ne_nil _ _
        · exact scientific_ne_nil _ _

end Number

namespace Value

theorem shown_ne_nil (value : Value) : value.shown ≠ [] := by
  cases value with
  | null => decide
  | bool b => cases b <;> decide
  | int n => exact integerChars_ne_nil n
  | float x => exact chars_ne_nil x
  | text s =>
      show Text.quotedChars s.toList ≠ []
      simp [Text.quotedChars]
  | bytes octets => nofun
  | date d =>
      show shownDate d ≠ []
      simp [shownDate, callNotation]
  | time t =>
      show shownTime t ≠ []
      simp [shownTime, callNotation]
  | dateTime d =>
      show shownDateTime d ≠ []
      simp [shownDateTime, callNotation]
  | list items => nofun
  | tuple items =>
      rw [shown.eq_def]
      simp only
      split <;> nofun
  | set items =>
      rw [shown.eq_def]
      simp only
      split
      · decide
      · nofun
  | table entries => nofun
  | enclosing brackets => cases brackets <;> decide

/-- A given value is not shown as an empty text. -/
theorem displayText_ne_empty {value : Value} (given : value.isGiven = true) :
    value.displayText ≠ "" := by
  have some_ : value.display ≠ [] := by
    cases value with
    | text s =>
        intro none
        rw [display] at none
        simp [isGiven, String.toList_eq_nil_iff.mp none] at given
    | date d => simp [display, Date.chars]
    | time t => simp [display, TimeOfDay.chars]
    | dateTime d => simp [display, DateTime.chars]
    | _ => exact shown_ne_nil _
  intro empty
  rw [displayText, ← String.toList_inj, String.toList_ofList] at empty
  exact some_ empty

end Value

end AgentFlow
