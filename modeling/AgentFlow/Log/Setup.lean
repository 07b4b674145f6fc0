import AgentFlow.Log.Record
import AgentFlow.Value.Fault

/-!
# Setting up logging

The level of the program's logger and the handlers that write its records.  Only the
first set-up installs a handler; later ones change the level.
-/

namespace AgentFlow.Log

/-- The state of logging: the level, if one is set, and for every handler whether it
writes JSON. -/
structure Setup where
  level : Nat
  handlers : List Bool
  deriving DecidableEq, Repr

/-- Logging before it is set up. -/
def Setup.none : Setup := ⟨0, []⟩

/-- The names of levels. -/
def levelNames : List (String × Level) :=
  [("CRITICAL", .critical), ("FATAL", .critical), ("ERROR", .error), ("WARNING", .warning),
    ("WARN", .warning), ("INFO", .info), ("DEBUG", .debug), ("NOTSET", .unset)]

/-- The upper-case letters of a character, as far as they are ASCII letters. -/
def upperChars (c : Char) : List Char :=
  if c = '\u0131' then ['I'] else if c = '\u017F' then ['S']
  else if c = '\uFB05' ∨ c = '\uFB06' then ['S', 'T']
  else [c.toUpper]

/-- The level of a name; an unknown name stands for the usual level. -/
def levelOf (name : String) : Except ValueFault Nat :=
  let upper := String.ofList (name.toList.flatMap upperChars)
  match levelNames.lookup upper with
  | some level => .ok level.number
  | none =>
    if upper = "BASIC_FORMAT" then .error (.unknownLevel upper)
    else if upper = "_STYLES" then .error (.wrongKind .key .table)
    else .ok Level.info.number

/-- The level that a value names. -/
def levelOfValue (value : Value) : Except ValueFault Nat :=
  match value with
  | .text name => levelOf name
  | value => .error (.wrongKind .level value.kind)

namespace Setup

/-- Set the level, and install a handler unless there is one. -/
def configure (setup : Setup) (level : Nat) (json : Bool) : Setup :=
  ⟨level, if setup.handlers.isEmpty then [json] else setup.handlers⟩

/-- The level that counts: that of all programs unless one is set. -/
def threshold (setup : Setup) : Nat :=
  if setup.level = 0 then Level.warning.number else setup.level

/-- Whether records of a level are let through. -/
def lets (setup : Setup) (level : Level) : Bool := setup.threshold ≤ level.number

end Setup

end AgentFlow.Log
