import AgentFlow.Text.Quoted
import AgentFlow.Value.Basic

/-!
# What a value cannot be used as

A value of a data file has no type in advance, so each use of one can find the
wrong kind of value, or a value of the right kind that names nothing.
-/

namespace AgentFlow

open AgentFlow.Number

/-- The use that a value of the wrong kind was put to. -/
inductive Value.Use where
  | path
  | members
  | key
  | joining
  | cell
  | text
  | count
  | fields
  | level
  | entry
  | pattern
  deriving DecidableEq, Repr

/-- Why a value cannot be used. -/
inductive ValueFault where
  | wrongKind (use : Value.Use) (kind : Value.Kind)
  | infiniteCount
  | nanCount
  | integer (fault : IntegerFault)
  | float (text : String)
  | calendar (fault : CalendarFault)
  | character (code : Nat)
  | missingField (name : String)
  | unknownLevel (text : String)
  | emptyText
  | tooDeep
  | hugeFloat
  | outOfRange (n : Int)
  | pattern
  deriving DecidableEq, Repr

/-- The digits limit as messages tell it. -/
def Number.IntegerFault.message : IntegerFault → String
  | .malformed base text =>
    "invalid literal for int() with base " ++ integerText base ++ ": " ++ Text.quoted text
  | .tooLong digits =>
    "Exceeds the limit (" ++ integerText maxDigits ++
      " digits) for integer string conversion: value has " ++ integerText digits ++
      " digits; use sys.set_int_max_str_digits() to increase the limit"

/-- The range that a part of a date or a time must lie in. -/
def CalendarFault.message : CalendarFault → String
  | .year given => "year " ++ integerText given ++ " is out of range"
  | .month => "month must be in 1..12"
  | .day => "day is out of range for month"
  | .hour => "hour must be in 0..23"
  | .minute => "minute must be in 0..59"
  | .second => "second must be in 0..59"
  | .offset _ => "offset must be shorter than a day"

/-- The text of a fault of a value. -/
def ValueFault.message : ValueFault → String
  | .wrongKind _ kind => "a value of kind " ++ kind.word ++ " cannot be used here"
  | .infiniteCount => "cannot convert float infinity to integer"
  | .nanCount => "cannot convert float NaN to integer"
  | .integer fault => fault.message
  | .float text => "could not convert string to float: " ++ Text.quoted text
  | .calendar fault => fault.message
  | .character _ => "chr() arg not in range(0x110000)"
  | .missingField name => Text.quoted name
  | .unknownLevel text => "Unknown level: " ++ Text.quoted text
  | .emptyText => "string index out of range"
  | .tooDeep => "maximum recursion depth exceeded"
  | .hugeFloat => "int too large to convert to float"
  | .outOfRange n => "the number " ++ integerText n ++ " is out of range"
  | .pattern => "unsupported format character"

end AgentFlow
