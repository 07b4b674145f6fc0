import AgentFlow.Error.Fault

/-!
# Changes to the file system

The steps that a program changes files by.  Each one happens as a whole or not at
all: `Change.apply` gives the disk after it, or the fault that left the disk as it was.
-/

namespace AgentFlow

/-- One step that changes the disk. -/
inductive Change where
  | makeDirectory (path : Path)
  | createFile (path : Path)
  | writeFile (path : Path) (text : String)
  | syncFile (path : Path)
  | replace (source target : Path)
  | remove (path : Path)
  deriving DecidableEq, Repr

namespace Disk

/-- The location of a path, which must be one that the file system can hold. -/
def place (disk : Disk) (path : Path) : Except Fault Location :=
  if path.hasNul then .error .nulInPath else (disk.locate path).mapError .file

/-- The file at a path. -/
def fileAt (disk : Disk) (path : Path) : Except Fault (Location × Content) := do
  let location ← disk.place path
  match disk.node? location with
  | none => .error (.file .missing)
  | some .directory => .error (.file .isADirectory)
  | some (.file content) => .ok (location, content)

/-- The text of the file at a path. -/
def readText (disk : Disk) (path : Path) : Except Fault String := do
  let (_, content) ← disk.fileAt path
  content.read.mapError .utf8

/-- The text of the file at a path with its line ends as they are. -/
def readExact (disk : Disk) (path : Path) : Except Fault String := do
  let (_, content) ← disk.fileAt path
  content.readExact.mapError .utf8

/-- A path whose last name is one that can be moved. -/
def isMovable (path : Path) : Bool :=
  path.name != "" && path.name != ".."

/-- Put what stands at one location in the place of what stands at another. -/
def moveNode (disk : Disk) (source target : Location) : Except FileFault Disk :=
  match disk.node? source with
  | none => .error .missing
  | some node =>
    if source = target then .ok disk
    else
      match node, disk.node? target with
      | .file _, some .directory => .error .isADirectory
      | .file content, _ => .ok ((disk.erase source).put target (.file content))
      | .directory, some (.file _) => .error .notADirectory
      | .directory, other =>
        if source.isPrefixOf target then .error .busy
        else if other.isSome && !(disk.namesIn target).isEmpty then .error .notEmpty
        else .ok (disk.moveTree source target)

end Disk

/-- The disk after a change. -/
def Change.apply (disk : Disk) : Change → Except Fault Disk
  | .makeDirectory path => do
    let location ← disk.place path
    if (disk.node? location).isSome then .error (.file .alreadyExists)
    else .ok (disk.put location .directory)
  | .createFile path => do
    let location ← disk.place path
    if (disk.node? location).isSome then .error (.file .alreadyExists)
    else .ok (disk.put location (.file (.text "")))
  | .writeFile path text => do
    let (location, _) ← disk.fileAt path
    .ok (disk.put location (.file (.text text)))
  | .syncFile path => do
    let _ ← disk.fileAt path
    .ok disk
  | .replace source target => do
    let sourcePlace ← disk.place source
    let targetPlace ← disk.place target
    if Disk.isMovable source && Disk.isMovable target then
      (disk.moveNode sourcePlace targetPlace).mapError .file
    else .error (.file .busy)
  | .remove path => do
    let (location, _) ← disk.fileAt path
    .ok (disk.erase location)

end AgentFlow
