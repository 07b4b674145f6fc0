import AgentFlow.Yaml.Graph
import AgentFlow.Yaml.TokenStream

/-!
# Reading nodes

The nodes of a document from its tokens.  A scalar without a tag is given one by its
text, and an alias is the node of its anchor.  The tokens may end in a fault, which is
told when the token that is not there is needed.
-/

namespace AgentFlow.Yaml

/-- What a document declares about tags: its handles and what they stand for. -/
abbrev Handles := List (List Char × List Char)

/-- The handles that every document has. -/
def standardHandles : Handles := [(['!'], ['!']), (['!', '!'], tagDomain)]

/-- The reading of nodes: the tokens left and the fault after them, the anchors and the
nodes so far, and the number of collections that are open. -/
structure Draft where
  tokens : List Token
  fault : Option Fault
  anchors : List (List Char × NodeId)
  nodes : Graph
  depth : Nat

/-- A reader of nodes. -/
abbrev Reader := StateT Draft (Except Fault)

/-- The number of collections that may be open at once. -/
def maxDepth : Nat := 485

namespace Reader

/-- The next token, which stays; none at the end of the text. -/
def peek? : Reader (Option Token) := do
  let draft ← get
  match draft.tokens, draft.fault with
  | token :: _, _ => return some token
  | [], none => return none
  | [], some fault => throw fault

/-- Whether the next token is one of some tokens. -/
def sees (tokens : List Token) : Reader Bool := do
  match ← peek? with
  | some token => return tokens.contains token
  | none => return false

/-- Take the next token away. -/
def advance : Reader Unit := modify fun draft => { draft with tokens := draft.tokens.drop 1 }

/-- The text is no YAML. -/
def malformed {α : Type} : Reader α := throw .malformed

/-- Take a given token away; it must be the next one. -/
def expect (token : Token) : Reader Unit := do
  if ← sees [token] then advance else malformed

/-- Give the next node an anchor, which must be new. -/
def openAnchor (name : Option (List Char)) : Reader Unit := do
  match name with
  | none => pure ()
  | some name =>
    let draft ← get
    if (draft.anchors.lookup name).isSome then malformed
    else set { draft with anchors := (name, draft.nodes.size) :: draft.anchors }

/-- Add a node. -/
def addNode (node : Node) : Reader NodeId :=
  modifyGet fun draft => (draft.nodes.size, { draft with nodes := draft.nodes.push node })

/-- Add a collection with what is read for it.  It has its number before its parts are
read, so that they can refer to it. -/
def addCollection (tag : Tag) (read : Reader Content) : Reader NodeId := do
  let id ← addNode ⟨tag, .scalar []⟩
  modify fun draft => { draft with depth := draft.depth + 1 }
  if maxDepth < (← get).depth then throw (.value .tooDeep)
  let content ← read
  modify fun draft =>
    { draft with depth := draft.depth - 1, nodes := draft.nodes.setContent id content }
  return id

/-- The node of an alias. -/
def aliased (name : List Char) : Reader NodeId := do
  match (← get).anchors.lookup name with
  | some id => return id
  | none => malformed

end Reader

open Reader

/-- The anchor and the tag before a node, in either order. -/
def takeProperties : Reader (Option (List Char) × Option RawTag) := do
  match ← peek? with
  | some (.anchor name) =>
    advance
    match ← peek? with
    | some (.tag tag) =>
      advance
      pure (some name, some tag)
    | _ => pure (some name, none)
  | some (.tag tag) =>
    advance
    match ← peek? with
    | some (.anchor name) =>
      advance
      pure (some name, some tag)
    | _ => pure (none, some tag)
  | _ => pure (none, none)

/-- The full name of a tag. -/
def fullTag (handles : Handles) : Option RawTag → Reader (Option (List Char))
  | none => pure none
  | some ⟨none, suffix⟩ => pure (some suffix)
  | some ⟨some handle, suffix⟩ =>
    match handles.lookup handle with
    | some stands => pure (some (stands ++ suffix))
    | none => malformed

/-- Whether a tag leaves the kind of a node to its text. -/
def isNonSpecific (tag : Option (List Char)) : Bool :=
  tag == none || tag == some ['!']

/-- The tag of a collection. -/
def collectionTag (default : Tag) (tag : Option (List Char)) : Tag :=
  if isNonSpecific tag then default else (tag.map Tag.ofText).getD default

/-- The tag of a scalar, by its text if it is plain. -/
def scalarTag (implicit : List Char → Tag) (plain : Bool) (tag : Option (List Char))
    (text : List Char) : Tag :=
  if (plain && tag == none) || tag == some ['!'] then implicit text
  else (tag.map Tag.ofText).getD .str

/-- Add the node that stands where nothing is written. -/
def emptyNode (implicit : List Char → Tag) : Reader NodeId := addNode ⟨implicit [], .scalar []⟩

/-- The places where a node may stand: in a block, after a key in a block, or in a flow
collection. -/
inductive Setting where
  | block
  | blockEntry
  | flow
  deriving DecidableEq, Repr

/-- The node that is written, or the empty one if one of some tokens follows. -/
def nodeUnless (implicit : List Char → Tag) (stops : List Token) (read : Reader NodeId) :
    Reader NodeId := do
  if ← sees stops then emptyNode implicit else read

mutual

/-- Read one node, with a bound on the depth of the calls. -/
def readNode (implicit : List Char → Tag) (handles : Handles) (setting : Setting) :
    Nat → Reader NodeId
  | 0 => malformed
  | fuel + 1 => do
    match ← peek? with
    | some (.alias name) =>
      advance
      aliased name
    | _ =>
      let (anchor, rawTag) ← takeProperties
      let tag ← fullTag handles rawTag
      let inBlock := setting != .flow
      let sequence (read : Reader (List NodeId)) : Reader NodeId := do
        openAnchor anchor
        addCollection (collectionTag .seq tag) (return .sequence (← read))
      let mapping (read : Reader Entries) : Reader NodeId := do
        openAnchor anchor
        addCollection (collectionTag .map tag) (return .mapping (← read))
      match ← peek? with
      | some (.scalar text plain) =>
        advance
        openAnchor anchor
        addNode ⟨scalarTag implicit plain tag text, .scalar text⟩
      | some .flowSequenceStart =>
        advance
        sequence (readFlowSequence implicit handles true fuel)
      | some .flowMappingStart =>
        advance
        mapping (readFlowMapping implicit handles true fuel)
      | next =>
        if setting = .blockEntry ∧ next = some .blockEntry then
          sequence (readDashes implicit handles fuel)
        else if inBlock ∧ next = some .blockSequenceStart then
          advance
          sequence (readBlockSequence implicit handles fuel)
        else if inBlock ∧ next = some .blockMappingStart then
          advance
          mapping (readBlockMapping implicit handles fuel)
        else if anchor.isSome || tag.isSome then
          openAnchor anchor
          addNode ⟨scalarTag implicit true tag [], .scalar []⟩
        else malformed

/-- The entries of a sequence in a block of its own. -/
def readBlockSequence (implicit : List Char → Tag) (handles : Handles) :
    Nat → Reader (List NodeId)
  | 0 => malformed
  | fuel + 1 => do
    if ← sees [.blockEntry] then
      advance
      let item ← nodeUnless implicit [.blockEntry, .blockEnd]
        (readNode implicit handles .block fuel)
      return item :: (← readBlockSequence implicit handles fuel)
    else
      expect .blockEnd
      return []

/-- The entries of a sequence that is not indented further than its key. -/
def readDashes (implicit : List Char → Tag) (handles : Handles) : Nat → Reader (List NodeId)
  | 0 => malformed
  | fuel + 1 => do
    if ← sees [.blockEntry] then
      advance
      let item ← nodeUnless implicit [.blockEntry, .key, .value, .blockEnd]
        (readNode implicit handles .block fuel)
      return item :: (← readDashes implicit handles fuel)
    else return []

/-- The entries of a mapping in a block. -/
def readBlockMapping (implicit : List Char → Tag) (handles : Handles) :
    Nat → Reader Entries
  | 0 => malformed
  | fuel + 1 => do
    let stops := [Token.key, .value, .blockEnd]
    if ← sees [.key] then
      advance
      let key ← nodeUnless implicit stops (readNode implicit handles .blockEntry fuel)
      let value ←
        if ← sees [.value] then do
          advance
          nodeUnless implicit stops (readNode implicit handles .blockEntry fuel)
        else emptyNode implicit
      return (key, value) :: (← readBlockMapping implicit handles fuel)
    else
      expect .blockEnd
      return []

/-- The entries of a sequence in brackets.  An entry with a key is a mapping of its own. -/
def readFlowSequence (implicit : List Char → Tag) (handles : Handles) (first : Bool) :
    Nat → Reader (List NodeId)
  | 0 => malformed
  | fuel + 1 => do
    if ← sees [.flowSequenceEnd] then
      advance
      return []
    else
      if !first then expect .flowEntry
      if ← sees [.flowSequenceEnd] then
        advance
        return []
      else if ← sees [.key] then
        advance
        let key ← nodeUnless implicit [.value, .flowEntry, .flowSequenceEnd]
          (readNode implicit handles .flow fuel)
        let value ←
          if ← sees [.value] then do
            advance
            nodeUnless implicit [.flowEntry, .flowSequenceEnd]
              (readNode implicit handles .flow fuel)
          else emptyNode implicit
        let pair ← addNode ⟨.map, .mapping [(key, value)]⟩
        return pair :: (← readFlowSequence implicit handles false fuel)
      else
        let item ← readNode implicit handles .flow fuel
        return item :: (← readFlowSequence implicit handles false fuel)

/-- The entries of a mapping in braces. -/
def readFlowMapping (implicit : List Char → Tag) (handles : Handles) (first : Bool) :
    Nat → Reader Entries
  | 0 => malformed
  | fuel + 1 => do
    if ← sees [.flowMappingEnd] then
      advance
      return []
    else
      if !first then expect .flowEntry
      if ← sees [.flowMappingEnd] then
        advance
        return []
      else if ← sees [.key] then
        advance
        let key ← nodeUnless implicit [.value, .flowEntry, .flowMappingEnd]
          (readNode implicit handles .flow fuel)
        let value ←
          if ← sees [.value] then do
            advance
            nodeUnless implicit [.flowEntry, .flowMappingEnd]
              (readNode implicit handles .flow fuel)
          else emptyNode implicit
        return (key, value) :: (← readFlowMapping implicit handles false fuel)
      else
        let key ← readNode implicit handles .flow fuel
        let value ← emptyNode implicit
        return (key, value) :: (← readFlowMapping implicit handles false fuel)

end

/-- The directives before a document: at most one version, which must be a first one,
and at most one meaning for each handle. -/
def takeDirectives : Nat → Bool → Handles → Reader Handles
  | 0, _, _ => malformed
  | fuel + 1, versioned, handles => do
    match ← peek? with
    | some (.directive directive) =>
      advance
      match directive with
      | .version major =>
        if versioned || major != 1 then malformed else takeDirectives fuel true handles
      | .tag handle stands =>
        if (handles.lookup handle).isSome then malformed
        else takeDirectives fuel versioned ((handle, stands) :: handles)
      | .other => takeDirectives fuel versioned handles
    | _ => return handles ++ standardHandles

/-- Take away the marks of the ends of documents. -/
def skipDocumentEnds : Nat → Reader Unit
  | 0 => malformed
  | fuel + 1 => do
    if ← sees [.documentEnd] then
      advance
      skipDocumentEnds fuel

/-- Whether all tokens are taken. -/
def atEnd : Reader Bool := return (← peek?).isNone

/-- The root of the only document, none if there is no document. -/
def readDocument (implicit : List Char → Tag) (fuel : Nat) : Reader (Option NodeId) := do
  if ← atEnd then return none
  let explicit :=
    match ← peek? with
    | some (.directive _) => true
    | some .documentStart => true
    | _ => false
  let root ←
    if explicit then do
      let handles ← takeDirectives fuel false []
      expect .documentStart
      match ← peek? with
      | none => emptyNode implicit
      | some .documentStart => emptyNode implicit
      | some .documentEnd => emptyNode implicit
      | some (.directive _) => emptyNode implicit
      | _ => readNode implicit handles .block fuel
    else readNode implicit standardHandles .block fuel
  skipDocumentEnds fuel
  if ← atEnd then return some root
  else
    let _ ← takeDirectives fuel false []
    malformed

/-- The nodes of a text and the root, none if the text holds no document. -/
def Graph.ofTokens (implicit : List Char → Tag) (tokens : List Token) (fault : Option Fault) :
    Except Fault (Graph × Option NodeId) := do
  let reading := readDocument implicit (4 * tokens.length + 4)
  let (root, draft) ← reading.run ⟨tokens, fault, [], #[], 0⟩
  return (draft.nodes, root)

end AgentFlow.Yaml
