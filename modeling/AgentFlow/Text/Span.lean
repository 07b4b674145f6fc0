/-!
# Character classes as spans

A class of characters is given by the sorted code points at which membership
changes: the first begins a span of members, the second ends it, and so on.
-/

namespace AgentFlow.Text

/-- Whether an odd number of the boundaries is at or below the code point, that
is, whether the code point lies in one of the spans. -/
def inSpans (boundaries : List Nat) (code : Nat) : Bool :=
  match boundaries with
  | [] => false
  | first :: rest => if code < first then false else !inSpans rest code

theorem inSpans_nil (code : Nat) : inSpans [] code = false := rfl

theorem inSpans_cons_of_lt {first code : Nat} {rest : List Nat} (below : code < first) :
    inSpans (first :: rest) code = false := by
  simp [inSpans, below]

theorem inSpans_cons_of_le {first code : Nat} {rest : List Nat} (above : first ≤ code) :
    inSpans (first :: rest) code = !inSpans rest code := by
  simp [inSpans, Nat.not_lt.mpr above]

end AgentFlow.Text
