import AgentFlow.Value.Basic

/-!
# The order of the members of a set

A set of numbers keeps its members in the places of a table and lists them place by place.
The code of a number, the same for equal numbers, names the place where it goes if that is
free; if not, the places behind it are tried, and then other ones that the code leads to.
Members that are not all numbers stand in the order of mention.
-/

namespace AgentFlow.Value

open AgentFlow.Number

/-- The prime modulo which the codes of numbers are taken. -/
def codePrime : Nat := Nat.pow 2 61 - 1

/-- The code of an infinite number. -/
def infiniteCode : Nat := 314159

/-- A size with its sign as an unsigned word.  No code is minus one. -/
def signedCode (negative : Bool) (size : Nat) : Nat :=
  if negative && size != 0 then Nat.pow 2 64 - (if size = 1 then 2 else size) else size

/-- The code of a number.  Powers of two repeat after sixty-one of them. -/
def code? : Value → Option Nat
  | .float .nan => none
  | .float (.infinite negative) => some (signedCode negative infiniteCode)
  | .float (.finite negative mantissa exponent) =>
    some (signedCode negative (mantissa * Nat.pow 2 (exponent.emod 61).toNat % codePrime))
  | value => value.integer?.map fun n => signedCode (n < 0) (n.natAbs % codePrime)

/-- The least power of two above a number, and at least `size`. -/
def powerAbove (n : Nat) : Nat → Nat → Nat
  | 0, size => size
  | fuel + 1, size => if size ≤ n then powerAbove n fuel (2 * size) else size

/-- The size of the table for a number of members: few members leave it small. -/
def tableSize (count : Nat) : Nat := if count < 5 then 8 else powerAbove (2 * count) count 8

/-- The number of places that are tried in a row, if there are so many. -/
def rowLength : Nat := 10

/-- The first free place from a place on; `rest` is what is left of the code. -/
def freePlace? (table : Array (Option Value)) : Nat → Nat → Nat → Option Nat
  | 0, _, _ => none
  | fuel + 1, place, rest =>
    let row := if place + rowLength ≤ table.size then rowLength else 1
    match (List.range' place row).find? fun place => (table.getD place none).isNone with
    | some free => some free
    | none =>
      let rest := rest / 32
      freePlace? table fuel ((5 * place + 1 + rest) % table.size) rest

/-- Put a member with its code into a table. -/
def putMember (table : Array (Option Value)) (member : Value × Nat) : Array (Option Value) :=
  match freePlace? table (table.size + 14) (member.2 % table.size) member.2 with
  | some place => table.setIfInBounds place (some member.1)
  | none => table

/-- The members of a set in their order. -/
def inSetOrder (members : List Value) : List Value :=
  match members.mapM fun member => member.code?.map (member, ·) with
  | some coded =>
    let table := coded.foldl putMember (Array.replicate (tableSize members.length) none)
    table.toList.filterMap id
  | none => members

end AgentFlow.Value
