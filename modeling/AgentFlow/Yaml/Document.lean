import AgentFlow.Value.Fault
import AgentFlow.Value.SetOrder
import AgentFlow.Yaml.Graph

/-!
# YAML documents

What a YAML text holds: a store of values, in which collections hold the numbers of their
parts.  A value is taken out of the store as a tree; where a collection stands inside of
itself, the tree ends.
-/

namespace AgentFlow.Yaml

/-- A value of the store.  A scalar has the number of the node it was made for, or none if
all nodes have the value in common. -/
inductive Cell where
  | scalar (value : Value) (owner : Option NodeId)
  | list (items : List NodeId)
  | pairs (pairs : Entries)
  | set (members : List NodeId)
  | table (entries : Entries)

/-- A store of values, and its root. -/
structure Document where
  cells : Array (Option Cell)
  root : Option NodeId

namespace Cell

/-- A value that cannot change may be a key. -/
def isKey : Cell → Bool
  | .scalar _ _ => true
  | _ => false

/-- Whether two scalars are the same key: they are equal, or the value of one node. -/
def sameKey : Cell → Cell → Bool
  | .scalar v owner, .scalar w other => v.sameKey w || (v.isNan && w.isNan && owner == other)
  | _, _ => false

end Cell

namespace Document

/-- A place in the store: a node, or one of the pairs that it holds. -/
abbrev Place := NodeId × Option Nat

/-- The value at a place as a tree.  `around` are the places that it stands in. -/
def unfold (cells : Array (Option Cell)) : Nat → List Place → NodeId → Value
  | 0, _, _ => .null
  | fuel + 1, around, id =>
    let inside := (id, none) :: around
    let part (id : NodeId) : Value := unfold cells fuel inside id
    let encloses := around.contains (id, none)
    match cells.getD id none with
    | none => .null
    | some (.scalar value _) => value
    | some (.list items) =>
      if encloses then .enclosing .square else .list (items.map part)
    | some (.pairs pairs) =>
      if encloses then .enclosing .square
      else .list (pairs.zipIdx.map fun ((key, value), index) =>
        if around.contains (id, some index) then .enclosing .round
        else
          let inside := (id, some index) :: inside
          .tuple [unfold cells fuel inside key, unfold cells fuel inside value])
    | some (.set members) => .set (Value.inSetOrder (members.map part))
    | some (.table entries) =>
      if encloses then .enclosing .curly
      else .table (entries.map fun (key, value) => (part key, part value))

/-- A bound on the number of places that a place can stand in. -/
def depthBound (document : Document) : Nat := document.cells.size + 1

/-- The value of a node. -/
def valueOf (document : Document) (id : NodeId) : Value :=
  unfold document.cells document.depthBound [] id

/-- The values of the items of a list, each on its own. -/
def itemsOf? (document : Document) (id : NodeId) : Option (List Value) :=
  match document.cells.getD id none with
  | some (.list items) => some (items.map document.valueOf)
  | some (.pairs pairs) =>
    some (pairs.zipIdx.map fun ((key, value), index) =>
      let part := unfold document.cells document.depthBound [(id, some index)]
      .tuple [part key, part value])
  | _ => none

/-- The value at the root; a text without a document is null. -/
def value (document : Document) : Value := (document.root.map document.valueOf).getD .null

/-- The node of a text key of the table at the root. -/
def field? (document : Document) (key : String) : Option NodeId := do
  match document.cells.getD (← document.root) none with
  | some (.table entries) =>
    let isField : NodeId × NodeId → Bool := fun (id, _) =>
      match document.cells.getD id none with
      | some (.scalar (.text name) _) => name == key
      | _ => false
    (entries.find? isField).map Prod.snd
  | _ => none

end Document

end AgentFlow.Yaml
