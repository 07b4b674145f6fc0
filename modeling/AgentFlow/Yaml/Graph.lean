import AgentFlow.Yaml.Token

/-!
# YAML graphs

The nodes of a document: scalars, sequences and mappings, each with its tag.  A node that
has an anchor can stand in several places, even inside of itself, so nodes are numbered
and collections hold the numbers of their parts.
-/

namespace AgentFlow.Yaml

/-- The tags that values are built from. -/
inductive Tag where
  | null
  | bool
  | int
  | float
  | binary
  | timestamp
  | omap
  | pairs
  | set
  | str
  | seq
  | map
  | merge
  | value
  | other
  deriving DecidableEq, Repr

/-- What the names of the known tags start with. -/
def tagDomain : List Char := "tag:yaml.org,2002:".toList

/-- The known tags by their names. -/
def knownTags : List (String × Tag) :=
  [("null", .null), ("bool", .bool), ("int", .int), ("float", .float), ("binary", .binary),
    ("timestamp", .timestamp), ("omap", .omap), ("pairs", .pairs), ("set", .set), ("str", .str),
    ("seq", .seq), ("map", .map), ("merge", .merge), ("value", .value)]

/-- The tag of a full name. -/
def Tag.ofText (cs : List Char) : Tag :=
  if tagDomain.isPrefixOf cs then
    (knownTags.lookup (String.ofList (cs.drop tagDomain.length))).getD .other
  else .other

/-- The number of a node. -/
abbrev NodeId := Nat

/-- The entries of a mapping, keys and values by their numbers. -/
abbrev Entries := List (NodeId × NodeId)

/-- What a node holds. -/
inductive Content where
  | scalar (text : List Char)
  | sequence (items : List NodeId)
  | mapping (entries : Entries)
  deriving DecidableEq, Repr

/-- A node. -/
structure Node where
  tag : Tag
  content : Content
  deriving DecidableEq, Repr

instance : Inhabited Node := ⟨.null, .scalar []⟩

/-- The nodes of a document by their numbers. -/
abbrev Graph := Array Node

namespace Graph

/-- The node of a number. -/
def node (graph : Graph) (id : NodeId) : Node := graph.getD id default

/-- The tag of a node. -/
def tag (graph : Graph) (id : NodeId) : Tag := (graph.node id).tag

/-- What a node holds. -/
def content (graph : Graph) (id : NodeId) : Content := (graph.node id).content

/-- The entries of a mapping. -/
def entries? (graph : Graph) (id : NodeId) : Option Entries :=
  match graph.content id with
  | .mapping entries => some entries
  | _ => none

/-- Let a node hold something else. -/
def setContent (graph : Graph) (id : NodeId) (content : Content) : Graph :=
  graph.modify id fun node => { node with content := content }

/-- Give a node another tag. -/
def setTag (graph : Graph) (id : NodeId) (tag : Tag) : Graph :=
  graph.modify id fun node => { node with tag := tag }

/-- The number of all entries of mappings. -/
def entryCount (graph : Graph) : Nat :=
  graph.foldl (fun count node =>
    match node.content with
    | .mapping entries => count + entries.length
    | _ => count) 0

end Graph

end AgentFlow.Yaml
