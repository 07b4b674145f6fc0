/-!
# Log records

What the program tells about its work: a level, the part that speaks, and a text.
-/

namespace AgentFlow.Log

/-- How much a record matters. -/
inductive Level where
  | unset
  | debug
  | info
  | warning
  | error
  | critical
  deriving DecidableEq, Repr

/-- The number of a level; more matters more. -/
def Level.number : Level → Nat
  | .unset => 0
  | .debug => 10
  | .info => 20
  | .warning => 30
  | .error => 40
  | .critical => 50

/-- The word for a level. -/
def Level.word : Level → String
  | .unset => "NOTSET"
  | .debug => "DEBUG"
  | .info => "INFO"
  | .warning => "WARNING"
  | .error => "ERROR"
  | .critical => "CRITICAL"

/-- The logger that all others stand below. -/
def rootLogger : String := "orchestra"

/-- The logger of a part of the program. -/
def loggerFor (part : String) : String := rootLogger ++ "." ++ part

/-- One record. -/
structure Record where
  level : Level
  logger : String
  message : String
  deriving DecidableEq, Repr

end AgentFlow.Log
