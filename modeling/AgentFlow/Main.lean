import AgentFlow.CommandLine.Run
import AgentFlow.Console.Layout
import AgentFlow.Log.Format
import Std.Time.Zoned

/-!
# The executable

The program decides on a picture of the part of the file system that it can be about.
This module takes the picture, runs the program on it, carries out its changes in their
order, and writes what it has printed and logged.
-/

namespace AgentFlow.Main

open AgentFlow.CommandLine

/-- The location that a path spells, whether or not something stands there. -/
def locationOf (disk : Disk) (path : Path) : Location :=
  path.parts.foldl Disk.step (if path.isAbsolute then [] else disk.current)

/-- The picture with a directory and those above it. -/
def withDirectory (disk : Disk) (location : Location) : Disk :=
  (List.range (location.length + 1)).foldl
    (fun disk count =>
      let above := location.take count
      if (disk.node? above).isSome then disk else disk.put above .directory)
    disk

/-- A file with its content. -/
def fileNode (octets : ByteArray) : Node := .file (.ofOctets octets.toList)

/-- The picture with what stands at a path; of a directory, with the files in it. -/
def withPath (disk : Disk) (path : Path) : IO Disk := do
  let location := locationOf disk path
  let place := (← IO.currentDir) / path.text
  if ← place.isDir then
    (← place.readDir).foldlM
      (fun disk entry => do
        let inside := location ++ [entry.fileName]
        if ← entry.path.isDir then return disk.put inside .directory
        else return disk.put inside (fileNode (← IO.FS.readBinFile entry.path)))
      (withDirectory disk location)
  else if ← place.pathExists then
    return (withDirectory disk location.dropLast).put location
      (fileNode (← IO.FS.readBinFile place))
  else return disk

/-- The picture with what stands at several paths. -/
def withPaths (disk : Disk) (paths : List Path) : IO Disk := paths.foldlM withPath disk

/-- The configuration files that may be read. -/
def configPaths (homes : Homes) (current : Path) (options : ProgramOptions) : List Path :=
  [(current.child ".orchestra").child Config.fileName, current.child "orchestra.toml"] ++
    (Config.globalFile homes options.home).toOption.toList

/-- The directories and files of a store. -/
def storePaths (store : Store) : List Path :=
  [store.agentsDir, store.temporaryDir, store.registryPath.parent, store.registryPath] ++
    store.journalPath.toOption.toList

/-- The files that a promotion in a journal is about. -/
def promotionPaths (store : Store) (disk : Disk) : List Path :=
  match store.journalPath >>= Promotion.read disk with
  | .ok promotion => [promotion.source, promotion.target]
  | .error _ => []

/-- The file that a command is given. -/
def commandPaths : Call → List Path
  | .command (.checkWorkflow path) => [Path.ofText path]
  | .command (.expandWorkflow path) => [Path.ofText path]
  | _ => []

/-- The picture of all that a request can be about. -/
def picture (homes : Homes) (current : Path) (request : Request) : IO Disk := do
  let empty := withDirectory ⟨[], current.parts⟩ current.parts
  match request with
  | .call options call =>
    let disk ← withPaths empty (configPaths homes current options ++ commandPaths call)
    let store := do
      let config ← Config.load disk homes current options.home
      config.store homes
    match store with
    | .ok store =>
      let disk ← withPaths disk (storePaths store)
      withPaths disk (promotionPaths store disk)
    | .error _ => return disk
  | _ => return empty

/-- Carry out a change. -/
def carryOut : Change → IO Unit
  | .makeDirectory path => IO.FS.createDir path.text
  | .createFile path => IO.FS.writeFile path.text ""
  | .writeFile path text => IO.FS.writeFile path.text text
  | .syncFile _ => return ()
  | .replace source target => IO.FS.rename source.text target.text
  | .remove path => IO.FS.removeFile path.text

/-- The users of a list of accounts, with their home directories. -/
def usersOf (accounts : String) : List (String × String) :=
  (accounts.splitOn "\n").filterMap fun line =>
    match line.splitOn ":" with
    | name :: _ :: _ :: _ :: _ :: home :: _ => some (name, home)
    | _ => none

/-- The home directories of the machine. -/
def readHomes : IO Homes := do
  let own := (← IO.getEnv "HOME").getD "/"
  let accounts ← try IO.FS.readFile "/etc/passwd" catch _ => pure ""
  return ⟨own, usersOf accounts⟩

/-- A date as the library writes it. -/
def dateOf (date : Std.Time.PlainDate) : Date :=
  ⟨date.year.toInt.toNat, date.month.val.toNat, date.day.val.toNat⟩

/-- A number in two digits. -/
def twoDigits (n : Int) : String := String.ofList (paddedDigits 2 n.toNat)

/-- The time of day as log lines tell it. -/
def clockText (time : Std.Time.PlainTime) : String :=
  String.intercalate ":" [twoDigits time.hour.val, twoDigits time.minute.val,
    twoDigits time.second.val]

/-- The seconds since the epoch, to the millisecond. -/
def epochText (milliseconds : Nat) : String :=
  String.ofList (Nat.toDigits 10 (milliseconds / 1000) ++ '.' ::
    paddedDigits 3 (milliseconds % 1000))

/-- Write the records that the set-up lets through. -/
def writeRecords (now : Std.Time.PlainDateTime) (terminal : Terminal) : IO Unit := do
  let epoch ← Std.Time.Timestamp.now
  let seconds := epochText epoch.toMillisecondsSinceUnixEpoch.val.toNat
  for record in terminal.machine.records do
    if terminal.setup.lets record.level then
      for json in terminal.setup.handlers do
        IO.eprintln (if json then Log.jsonLine seconds record none
          else Log.plainLine (clockText now.time) record none)

/-- How the program is used. -/
def usage : String := String.intercalate "\n" [
  "Usage: orchestra [--home DIR] [--log-level LEVEL] [--json-logs] COMMAND",
  "",
  "  agent list | resolve NAME | show NAME | promote NAME [--as NAME] | delete NAME",
  "  workflow check PATH | expand PATH",
  "  config",
  "  version"]

/-- Whether help is asked for. -/
def asksForHelp : Request → Bool
  | .help => true
  | .call _ .help => true
  | _ => false

end AgentFlow.Main

open AgentFlow AgentFlow.CommandLine AgentFlow.Main in
/-- Run the program. -/
def main (arguments : List String) : IO UInt32 := do
  let homes ← readHomes
  let current := Path.ofText (← IO.currentDir).toString
  let request := readRequest arguments
  let disk ← picture homes current request
  let now ← Std.Time.PlainDateTime.now
  let context : Context := ⟨homes, dateOf now.date, Fault.describe⟩
  let (conclusion, terminal) := run context (Machine.ofDisk disk) arguments
  terminal.machine.changes.forM carryOut
  writeRecords now terminal
  terminal.printed.forM fun item => item.lines.forM IO.println
  if asksForHelp request && conclusion.exit = 0 then IO.println usage
  if conclusion.exit = misuseCode then IO.eprintln usage
  match conclusion.error with
  | some e => IO.eprintln e.message
  | none => pure ()
  return conclusion.exit.toUInt32
