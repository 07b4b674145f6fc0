import AgentFlow.Yaml.Document
import AgentFlow.Yaml.Merge
import AgentFlow.Yaml.Node
import AgentFlow.Yaml.Scalar

/-!
# Reading YAML

A YAML 1.1 text as a document.  The values are built level by level, so of two faults
the one nearer to the root is told, and of two at one level the first.  Each node has
one value, wherever it stands.
-/

namespace AgentFlow.Yaml

/-- The work on the values: the nodes, the store so far, and the collections whose parts
are still to be built. -/
structure Building where
  graph : Graph
  cells : Array (Option Cell)
  waiting : Array NodeId

/-- Work on the values of a document. -/
abbrev Builder := StateT Building (Except Fault)

/-- The scalar that stands for a node: its own, or that of the key `=` of a mapping.  A
mapping that stands for itself has none. -/
def representative (graph : Graph) : Nat → NodeId → Except Fault (List Char)
  | 0, _ => .error (.value .tooDeep)
  | fuel + 1, id =>
    match graph.content id with
    | .scalar text => .ok text
    | .sequence _ => .error .malformed
    | .mapping entries =>
      match entries.find? fun (key, _) => graph.tag key = .value with
      | some (_, value) => representative graph fuel value
      | none => .error .malformed

/-- The value of a scalar, and its owner. -/
def scalarCell (graph : Graph) (id : NodeId) : Except Fault Cell := do
  let tag := graph.tag id
  if !hasValue tag then .error .malformed
  let text ← representative graph (graph.size + 1) id
  match tag, graph.content id with
  | .timestamp, .mapping _ => .error (.value (.wrongKind .text .list))
  | tag, _ =>
    let isCommon := tag = .float && isNanWord text
    return .scalar (← scalarValue tag text) (if isCommon then none else some id)

namespace Builder

/-- Put a value into the store. -/
def store (id : NodeId) (cell : Cell) : Builder Unit :=
  modify fun building => { building with cells := building.cells.setIfInBounds id (some cell) }

/-- Put a collection into the store whose parts are not built yet. -/
def postpone (id : NodeId) (cell : Cell) : Builder Cell := do
  store id cell
  modify fun building => { building with waiting := building.waiting.push id }
  return cell

/-- The value of a node, built if it is not there yet. -/
def construct (id : NodeId) : Builder Cell := do
  let building ← get
  match building.cells.getD id none with
  | some cell => return cell
  | none =>
    match building.graph.tag id with
    | .seq => postpone id (.list [])
    | .omap => postpone id (.pairs [])
    | .pairs => postpone id (.pairs [])
    | .set => postpone id (.set [])
    | .map => postpone id (.table [])
    | _ =>
      let cell ← scalarCell building.graph id
      store id cell
      return cell

/-- The value of a key, which must be one that cannot change. -/
def constructKey (id : NodeId) : Builder Cell := do
  let cell ← construct id
  if cell.isKey then return cell else throw .malformed

/-- Put an entry into a table: an entry with the same key keeps its place and its key and
takes the new value. -/
def insertEntry (key : NodeId) (cell : Cell) (value : NodeId) :
    List (NodeId × Cell × NodeId) → List (NodeId × Cell × NodeId)
  | [] => [(key, cell, value)]
  | (oldKey, oldCell, old) :: rest =>
    if oldCell.sameKey cell then (oldKey, oldCell, value) :: rest
    else (oldKey, oldCell, old) :: insertEntry key cell value rest

/-- Build the entries of a mapping, after its merge keys are carried out. -/
def constructEntries (id : NodeId) : Builder Entries := do
  let building ← get
  let (entries, graph) ← (merge id).run building.graph
  set { building with graph := graph }
  let mut table := []
  for (key, value) in entries do
    let cell ← constructKey key
    let _ ← construct value
    table := insertEntry key cell value table
  return table.map fun (key, _, value) => (key, value)

/-- Build a pair from a mapping of one entry. -/
def constructPair (id : NodeId) : Builder (NodeId × NodeId) := do
  match (← get).graph.content id with
  | .mapping [(key, value)] =>
    let _ ← construct key
    let _ ← construct value
    return (key, value)
  | _ => throw .malformed

/-- The items of a node that must be a sequence. -/
def sequenceItems (id : NodeId) : Builder (List NodeId) := do
  match (← get).graph.content id with
  | .sequence items => return items
  | _ => throw .malformed

/-- Build the parts of a collection. -/
def complete (id : NodeId) : Builder Unit := do
  match (← get).cells.getD id none with
  | some (.list _) =>
    let items ← sequenceItems id
    for item in items do
      let _ ← construct item
    store id (.list items)
  | some (.pairs _) => store id (.pairs (← (← sequenceItems id).mapM constructPair))
  | some (.set _) => store id (.set ((← constructEntries id).map Prod.fst))
  | some (.table _) => store id (.table (← constructEntries id))
  | _ => pure ()

/-- Build the parts of the collections that wait, level by level. -/
def completeAll : Nat → Builder Unit
  | 0 => pure ()
  | levels + 1 => do
    let waiting := (← get).waiting
    modify fun building => { building with waiting := #[] }
    for id in waiting do
      complete id
    completeAll levels

end Builder

/-- The values of the nodes of a document. -/
def Document.ofGraph (graph : Graph) (root : NodeId) : Except Fault Document := do
  let work : Builder Unit := do
    let _ ← Builder.construct root
    Builder.completeAll graph.size
  let (_, building) ← work.run ⟨graph, Array.replicate graph.size none, #[]⟩
  return ⟨building.cells, some root⟩

/-- Read the only document of a text. -/
def read (text : String) : Except Fault Document := do
  let cs := text.toList
  if cs.any (!isAllowed ·) then .error .malformed
  let (tokens, fault) := tokensOf cs
  match ← Graph.ofTokens implicitTag tokens fault with
  | (_, none) => .ok ⟨#[], none⟩
  | (graph, some root) => Document.ofGraph graph root

end AgentFlow.Yaml
