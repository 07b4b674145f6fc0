import AgentFlow.Files.Disk
import AgentFlow.Json.Reader
import AgentFlow.Toml.Scalar
import AgentFlow.Value.Fault

/-!
# Faults

What goes wrong below the level of agents and workflows: in files, in texts, in
data formats and in values.  An error of the library may carry a fault as its
reason, and a fault that nobody expects travels alone.
-/

namespace AgentFlow

open AgentFlow.Number AgentFlow.Text

/-- Something that went wrong below. -/
inductive Fault where
  | file (fault : FileFault)
  | nulInPath
  | unnamedPath (path : Path)
  | home (fault : HomeFault)
  | utf8 (fault : Utf8Fault)
  | json
  | toml
  | yaml
  | integer (fault : IntegerFault)
  | value (fault : ValueFault)
  | markup
  deriving DecidableEq, Repr

namespace Fault

/-- The varieties of faults, by what they say about their cause. -/
inductive Variety where
  | access
  | encoding
  | badValue
  | wrongKind
  | noSuchPart
  | overflow
  | noHome
  | missingKey
  | missingItem
  | format
  | markup
  | unprintable
  | depth
  deriving DecidableEq, Repr

/-- The variety of a fault. -/
def variety : Fault → Variety
  | .file _ => .access
  | .nulInPath => .badValue
  | .unnamedPath _ => .badValue
  | .home (.unknown _) => .noHome
  | .home .nul => .badValue
  | .utf8 _ => .encoding
  | .json => .format
  | .toml => .format
  | .yaml => .format
  | .integer _ => .badValue
  | .value (.wrongKind .fields _) => .noSuchPart
  | .value (.wrongKind .level _) => .noSuchPart
  | .value (.wrongKind .entry _) => .noSuchPart
  | .value (.wrongKind .cell _) => .unprintable
  | .value (.wrongKind _ _) => .wrongKind
  | .value .infiniteCount => .overflow
  | .value (.missingField _) => .missingKey
  | .value .emptyText => .missingItem
  | .value .tooDeep => .depth
  | .value .hugeFloat => .overflow
  | .value (.outOfRange _) => .overflow
  | .value (.character code) => if code < 0x80000000 then .badValue else .overflow
  | .value _ => .badValue
  | .markup => .markup

/-- A value that is out of its format, or octets that are no text. -/
def isBadValue (fault : Fault) : Bool :=
  fault.variety = .badValue || fault.variety = .encoding

/-- The fault of a JSON text. -/
def ofJson : Json.Fault → Fault
  | .malformed => .json
  | .tooDeep => .value .tooDeep
  | .number fault => .integer fault

/-- The fault of a TOML text. -/
def ofToml : Toml.Fault → Fault
  | .malformed => .toml
  | .tooDeep => .value .tooDeep
  | .number fault => .integer fault

/-- The reason why octets are not UTF-8, as messages tell it. -/
def utf8Reason : Utf8Reason → String
  | .invalidStart => "invalid start byte"
  | .invalidContinuation => "invalid continuation byte"
  | .unexpectedEnd => "unexpected end of data"

/-- The place where octets stop being UTF-8. -/
def utf8Message (fault : Utf8Fault) : String :=
  let count := fault.octets.length
  let place :=
    match fault.octets with
    | [octet] =>
      "byte 0x" ++ String.ofList (hexDigits 2 octet.toNat) ++ " in position " ++
        integerText fault.position
    | _ =>
      "bytes in position " ++ integerText fault.position ++ "-" ++
        integerText (fault.position + count - 1 : Nat)
  "\x27utf-8\x27 codec can\x27t decode " ++ place ++ ": " ++ utf8Reason fault.reason

/-- What went wrong with a file. -/
def fileMessage : FileFault → String
  | .missing => "no such file or directory"
  | .notADirectory => "not a directory"
  | .isADirectory => "is a directory"
  | .alreadyExists => "file exists"
  | .notEmpty => "directory not empty"
  | .nameTooLong => "file name too long"
  | .busy => "device or resource busy"
  | .interrupted => "input/output error"

/-- The text of a fault. -/
def describe : Fault → String
  | .file fault => fileMessage fault
  | .nulInPath => "embedded null byte"
  | .unnamedPath path => "the path " ++ quoted path.text ++ " has an empty name"
  | .home _ => "Could not determine home directory."
  | .utf8 fault => utf8Message fault
  | .json => "malformed JSON"
  | .toml => "malformed TOML"
  | .yaml => "malformed YAML"
  | .integer fault => fault.message
  | .value fault => fault.message
  | .markup => "malformed markup"

end Fault

end AgentFlow
