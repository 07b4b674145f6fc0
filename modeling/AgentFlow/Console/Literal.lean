import AgentFlow.Console.Literal.Token

/-!
# Literals

A literal is a number with a sign or without, the sum of a real and an imaginary number, a
text or some texts in a row, a name of a constant, a collection of literals in round or
curly brackets, or some literals with commas between them.  The elements and the keys of
a collection in curly brackets are no such collections themselves.  A text is a literal if
its tokens lead from an empty frame to a complete one, one frame to each open bracket.
-/

namespace AgentFlow.Console.Literal

/-- What is read of an element. -/
inductive Part where
  | nothing
  | sign
  | operand (kind : Kind)
  | sum
  | setWord
  deriving DecidableEq, Repr

/-- What is read since a bracket was opened: the elements, whether all of them can be
elements of a collection in curly brackets, whether they have keys, whether the next one
has one, and the part of the next one. -/
structure Frame where
  bracket : Option Bracket
  hasElements : Bool
  areHashable : Bool
  isKeyed : Bool
  hasKey : Bool
  part : Part
  deriving DecidableEq, Repr

namespace Kind

/-- Whether a value can be an element of a collection in curly brackets. -/
def isHashable (kind : Kind) : Bool := kind != .collection

/-- The kind of a value with a sign in front. -/
def signed? : Kind → Option Kind
  | .real => some .signedReal
  | .imaginary => some .constant
  | _ => none

/-- The kind of a value in brackets of its own. -/
def bracketed : Kind → Kind
  | .text => .constant
  | .octets => .constant
  | kind => kind

end Kind

namespace Frame

/-- The frame of a bracket in which nothing is read. -/
def empty (bracket : Option Bracket) : Frame := ⟨bracket, false, true, false, false, .nothing⟩

/-- Read a value.  Texts may follow texts, and an imaginary number makes a sum complete. -/
def value? (frame : Frame) (kind : Kind) : Option Frame :=
  match frame.part with
  | .nothing => some { frame with part := .operand kind }
  | .sign => kind.signed?.map fun kind => { frame with part := .operand kind }
  | .sum => if kind = .imaginary then some { frame with part := .operand .constant } else none
  | .operand before =>
    if kind = before && (kind = .text || kind = .octets) then some frame else none
  | .setWord => none

/-- Read a sign. -/
def sign? (frame : Frame) : Option Frame :=
  match frame.part with
  | .nothing => some { frame with part := .sign }
  | .operand .real => some { frame with part := .sum }
  | .operand .signedReal => some { frame with part := .sum }
  | _ => none

/-- Whether an element can end here: in curly brackets all elements have keys or none. -/
def takesElement (frame : Frame) (kind : Kind) : Bool :=
  if frame.bracket = some .curly then
    frame.isKeyed = frame.hasKey && (frame.isKeyed || kind.isHashable)
  else true

/-- Complete an element. -/
def element? (frame : Frame) : Option Frame :=
  match frame.part with
  | .operand kind =>
    if frame.takesElement kind then
      some { frame with hasElements := true, areHashable := frame.areHashable && kind.isHashable,
                        hasKey := false, part := .nothing }
    else none
  | _ => none

/-- Complete a key.  Keys stand in curly brackets, and the first element has one. -/
def key? (frame : Frame) : Option Frame :=
  match frame.part with
  | .operand kind =>
    if frame.bracket = some .curly && (frame.isKeyed || !frame.hasElements) && !frame.hasKey &&
        kind.isHashable then
      some { frame with isKeyed := true, hasKey := true, part := .nothing }
    else none
  | _ => none

/-- The kind of the elements in round brackets. -/
def tupleKind (frame : Frame) : Kind := if frame.areHashable then .constant else .collection

/-- The kind of the value that a closing bracket completes.  One element alone in round
brackets is that element. -/
def closed? (frame : Frame) (bracket : Bracket) : Option Kind :=
  match frame.bracket, bracket, frame.part with
  | some .round, .round, .nothing => some frame.tupleKind
  | some .round, .round, .operand kind =>
    if frame.hasElements then frame.element?.map tupleKind else some kind.bracketed
  | some .call, .round, .nothing => some .collection
  | some .curly, .curly, .nothing => if frame.hasKey then none else some .collection
  | some .curly, .curly, .operand _ => frame.element?.map fun _ => .collection
  | _, _, _ => none

/-- Whether a literal is complete in the frame outside of all brackets. -/
def isComplete (frame : Frame) : Bool :=
  match frame.part with
  | .operand _ => true
  | .nothing => frame.hasElements
  | _ => false

end Frame

/-- The deepest nesting of brackets. -/
def maxNesting : Nat := 200

/-- What is read of a literal: the innermost frame, the ones around it, and whether the
line with the literal is over. -/
structure State where
  frame : Frame
  outer : List Frame
  isOver : Bool
  deriving DecidableEq, Repr

namespace State

/-- The state in which nothing is read. -/
def start : State := ⟨.empty none, [], false⟩

/-- Open a bracket.  A round one behind the word for a set calls for an empty one. -/
def open? (state : State) (bracket : Bracket) : Option State :=
  if state.outer.length ≥ maxNesting then none
  else if state.frame.part = .setWord && bracket = .round then
    some ⟨.empty (some .call), { state.frame with part := .nothing } :: state.outer, state.isOver⟩
  else some ⟨.empty (some bracket), state.frame :: state.outer, state.isOver⟩

/-- Close a bracket; what stands in it is a value of the frame around it. -/
def close? (state : State) (bracket : Bracket) : Option State :=
  match state.outer with
  | [] => none
  | frame :: outer => do
    let kind ← state.frame.closed? bracket
    let frame ← frame.value? kind
    return ⟨frame, outer, state.isOver⟩

/-- End a line.  In brackets, and in front of the literal, this means nothing. -/
def endLine? (state : State) : Option State :=
  if !state.outer.isEmpty || state.frame = .empty none || state.isOver then some state
  else if state.frame.isComplete then some { state with isOver := true }
  else none

/-- Read a token. -/
def step? (state : State) : Token → Option State
  | .lineEnd => state.endLine?
  | token =>
    if state.isOver then none
    else
      let onFrame (frame : Option Frame) : Option State :=
        frame.map fun frame => { state with frame := frame }
      match token with
      | .value kind => onFrame (state.frame.value? kind)
      | .setWord =>
        if state.frame.part = .nothing then some { state with frame.part := .setWord } else none
      | .sign => onFrame state.frame.sign?
      | .comma => onFrame state.frame.element?
      | .colon => onFrame state.frame.key?
      | .opening bracket => state.open? bracket
      | .closing bracket => state.close? bracket
      | .lineEnd => some state

end State

/-- Whether a text is a literal. -/
def isLiteral (cs : List Char) : Bool :=
  !cs.contains '\x00' &&
    match (tokens? cs).bind fun tokens => tokens.foldlM State.step? State.start with
    | some state => state.outer.isEmpty && state.frame.isComplete
    | none => false

end AgentFlow.Console.Literal
