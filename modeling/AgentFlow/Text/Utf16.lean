/-!
# UTF-16 units

Escapes name characters by UTF-16 units.  A character outside of the first plane is a
surrogate pair of units, and half of a pair by itself stands for the replacement character.
-/

namespace AgentFlow.Text

/-- The first half of a surrogate pair. -/
def isHighUnit (unit : Nat) : Bool := 0xD800 ≤ unit && unit ≤ 0xDBFF

/-- The second half of a surrogate pair. -/
def isLowUnit (unit : Nat) : Bool := 0xDC00 ≤ unit && unit ≤ 0xDFFF

/-- The character of a unit that is not paired. -/
def loneUnit (unit : Nat) : Char :=
  if isHighUnit unit || isLowUnit unit then '\uFFFD' else Char.ofNat unit

/-- The character that a pair of units stands for. -/
def pairedUnits (high low : Nat) : Char :=
  Char.ofNat (0x10000 + (high - 0xD800) * 0x400 + (low - 0xDC00))

end AgentFlow.Text
