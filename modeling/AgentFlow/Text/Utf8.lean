/-!
# UTF-8

Reading octets as characters.  A malformed sequence is reported with its place,
its length and the reason, at the first octet that no character can hold.
-/

namespace AgentFlow.Text

/-- Why octets are not UTF-8. -/
inductive Utf8Reason where
  | invalidStart
  | invalidContinuation
  | unexpectedEnd
  deriving DecidableEq, Repr

/-- Where octets stop being UTF-8: the position and the octets of the faulty sequence. -/
structure Utf8Fault where
  position : Nat
  octets : List UInt8
  reason : Utf8Reason
  deriving DecidableEq, Repr

/-- The octets that may follow `first` in second place, if `first` can start a
character of more than one octet, and the number of octets after it. -/
def Utf8.shape? (first : Nat) : Option (Nat × Nat × Nat) :=
  if 0xC2 ≤ first ∧ first ≤ 0xDF then some (1, 0x80, 0xBF)
  else if first = 0xE0 then some (2, 0xA0, 0xBF)
  else if first = 0xED then some (2, 0x80, 0x9F)
  else if 0xE1 ≤ first ∧ first ≤ 0xEF then some (2, 0x80, 0xBF)
  else if first = 0xF0 then some (3, 0x90, 0xBF)
  else if first = 0xF4 then some (3, 0x80, 0x8F)
  else if 0xF1 ≤ first ∧ first ≤ 0xF3 then some (3, 0x80, 0xBF)
  else none

/-- The payload of the first octet of a sequence with `following` more octets. -/
def Utf8.leading (following first : Nat) : Nat :=
  first % Nat.pow 2 (6 - following)

/-- Read the octets one by one.  `taken` holds the octets of the open character,
last first, `owed` counts those still to come, `low` and `high` bound the next
one, and `code` is the value so far. -/
def Utf8.decodeFrom (position : Nat) (taken : List UInt8) (owed low high code : Nat) :
    List UInt8 → Except Utf8Fault (List Char)
  | [] =>
    if owed = 0 then .ok []
    else .error ⟨position, taken.reverse, .unexpectedEnd⟩
  | octet :: rest =>
    let value := octet.toNat
    match owed with
    | 0 =>
      if value < 0x80 then
        (Utf8.decodeFrom (position + 1) [] 0 0 0 0 rest).map (Char.ofNat value :: ·)
      else
        match Utf8.shape? value with
        | none => .error ⟨position, [octet], .invalidStart⟩
        | some (following, low, high) =>
          Utf8.decodeFrom position [octet] following low high (Utf8.leading following value) rest
    | owed + 1 =>
      if low ≤ value ∧ value ≤ high then
        let code := code * 64 + value % 64
        if owed = 0 then
          (Utf8.decodeFrom (position + taken.length + 1) [] 0 0 0 0 rest).map
            (Char.ofNat code :: ·)
        else
          Utf8.decodeFrom position (octet :: taken) owed 0x80 0xBF code rest
      else .error ⟨position, taken.reverse, .invalidContinuation⟩

/-- The text that the octets spell, or the first place where they are not UTF-8. -/
def decodeUtf8 (octets : List UInt8) : Except Utf8Fault (List Char) :=
  Utf8.decodeFrom 0 [] 0 0 0 0 octets

end AgentFlow.Text
