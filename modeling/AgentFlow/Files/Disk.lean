import AgentFlow.Files.Path
import AgentFlow.Text.Lines

/-!
# The file system

Directories and files at locations, a location being the names from the root down.
A path leads to a location name by name: every name but the last must be that of a
directory, and two dots lead to the directory above.
-/

namespace AgentFlow

open AgentFlow.Text

/-- Why an access to the file system fails. -/
inductive FileFault where
  | missing
  | notADirectory
  | isADirectory
  | alreadyExists
  | notEmpty
  | nameTooLong
  | busy
  | interrupted
  deriving DecidableEq, Repr

/-- The content of a file: a text, or octets that are no text. -/
inductive Content where
  | text (s : String)
  | binary (octets : List UInt8)
  deriving DecidableEq, Repr

namespace Content

/-- The content that octets make. -/
def ofOctets (octets : List UInt8) : Content :=
  match decodeUtf8 octets with
  | .ok cs => .text (String.ofList cs)
  | .error _ => .binary octets

/-- The text of a file, its line ends made line feeds. -/
def read : Content → Except Utf8Fault String
  | .text s => .ok (String.ofList (normalizeNewlines s.toList))
  | .binary octets =>
    (decodeUtf8 octets).map fun cs => String.ofList (normalizeNewlines cs)

/-- The text of a file, its line ends left as they are. -/
def readExact : Content → Except Utf8Fault String
  | .text s => .ok s
  | .binary octets => (decodeUtf8 octets).map String.ofList

end Content

/-- The names from the root down to a directory or a file. -/
abbrev Location := List String

/-- What stands at a location. -/
inductive Node where
  | directory
  | file (content : Content)
  deriving DecidableEq, Repr

/-- The file system: what stands where, and the directory that relative paths
start from. -/
structure Disk where
  nodes : List (Location × Node)
  current : Location
  deriving Repr

namespace Disk

/-- What stands at a location.  The root is a directory. -/
def node? (disk : Disk) (location : Location) : Option Node :=
  if location.isEmpty then some .directory else disk.nodes.lookup location

/-- The disk with a node put at a location. -/
def put (disk : Disk) (location : Location) (node : Node) : Disk :=
  { disk with nodes := (location, node) :: disk.nodes.filter (·.1 != location) }

/-- The disk without what stands at a location. -/
def erase (disk : Disk) (location : Location) : Disk :=
  { disk with nodes := disk.nodes.filter (·.1 != location) }

/-- The names in a directory. -/
def namesIn (disk : Disk) (location : Location) : List String :=
  disk.nodes.filterMap fun (place, _) =>
    match place.getLast? with
    | some name => if place.dropLast = location then some name else none
    | none => none

/-- What moves when a directory does: the nodes at a location and below it. -/
def moveTree (disk : Disk) (source target : Location) : Disk :=
  let kept := disk.nodes.filter fun (place, _) => !target.isPrefixOf place
  { disk with
    nodes := kept.map fun (place, node) =>
      if source.isPrefixOf place then (target ++ place.drop source.length, node)
      else (place, node) }

/-- The greatest length of a name, in octets. -/
def maxNameLength : Nat := 255

/-- The length that a path must stay below, in octets. -/
def maxPathLength : Nat := 4096

/-- The place of a name in a directory. -/
def step (location : Location) (name : String) : Location :=
  if name = ".." then location.dropLast else location ++ [name]

/-- Follow names from a location.  Every name is looked up in a directory. -/
def follow (disk : Disk) (location : Location) : List String → Except FileFault Location
  | [] => .ok location
  | name :: names =>
    match disk.node? location with
    | none => .error .missing
    | some (.file _) => .error .notADirectory
    | some .directory =>
      if name.utf8ByteSize > maxNameLength then .error .nameTooLong
      else disk.follow (step location name) names

/-- The location that a path leads to.  Something may or may not stand there. -/
def locate (disk : Disk) (path : Path) : Except FileFault Location :=
  if path.text.utf8ByteSize ≥ maxPathLength then .error .nameTooLong
  else disk.follow (if path.isAbsolute then [] else disk.current) path.parts

/-- What a path leads to. -/
def find (disk : Disk) (path : Path) : Except FileFault Node := do
  match disk.node? (← disk.locate path) with
  | some node => .ok node
  | none => .error .missing

/-- A question about a path that leads nowhere is answered with no.  A name that is
too long is a fault. -/
def ask (disk : Disk) (path : Path) (answer : Node → Bool) : Except FileFault Bool :=
  if path.hasNul then .ok false
  else
    match disk.find path with
    | .ok node => .ok (answer node)
    | .error .nameTooLong => .error .nameTooLong
    | .error _ => .ok false

/-- Whether something stands at a path. -/
def pathExists (disk : Disk) (path : Path) : Except FileFault Bool :=
  disk.ask path fun _ => true

/-- Whether a file stands at a path. -/
def isFile (disk : Disk) (path : Path) : Except FileFault Bool :=
  disk.ask path fun
    | .file _ => true
    | .directory => false

/-- Whether a directory stands at a path. -/
def isDirectory (disk : Disk) (path : Path) : Except FileFault Bool :=
  disk.ask path fun
    | .directory => true
    | .file _ => false

end Disk

end AgentFlow
