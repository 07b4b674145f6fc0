import AgentFlow.Calendar
import AgentFlow.Number.Shortest

/-!
# Values of data files

The registry, the configuration and the head of a definition are written in data
formats whose values are not typed in advance.  `Value` holds what any of these
formats can say.
-/

namespace AgentFlow

open AgentFlow.Number

/-- The brackets that a collection is shown in. -/
inductive Brackets where
  | square
  | round
  | curly
  deriving DecidableEq, Repr

/-- A value read from a data file.  Tables keep their entries in the order of
first mention.  `enclosing` stands for a collection inside of itself. -/
inductive Value where
  | null
  | bool (b : Bool)
  | int (n : Int)
  | float (x : Binary64)
  | text (s : String)
  | bytes (octets : List UInt8)
  | date (d : Date)
  | time (t : TimeOfDay)
  | dateTime (d : DateTime)
  | list (items : List Value)
  | tuple (items : List Value)
  | set (items : List Value)
  | table (entries : List (Value × Value))
  | enclosing (brackets : Brackets)

namespace Value

/-- The kind of a value, as messages name it. -/
inductive Kind where
  | null
  | bool
  | int
  | float
  | text
  | bytes
  | date
  | time
  | dateTime
  | list
  | tuple
  | set
  | table
  deriving DecidableEq, Repr

/-- The kind of a value. -/
def kind : Value → Kind
  | .null => .null
  | .bool _ => .bool
  | .int _ => .int
  | .float _ => .float
  | .text _ => .text
  | .bytes _ => .bytes
  | .date _ => .date
  | .time _ => .time
  | .dateTime _ => .dateTime
  | .list _ => .list
  | .tuple _ => .tuple
  | .set _ => .set
  | .table _ => .table
  | .enclosing .square => .list
  | .enclosing .round => .tuple
  | .enclosing .curly => .table

/-- The word for a kind. -/
def Kind.word : Kind → String
  | .null => "NoneType"
  | .bool => "bool"
  | .int => "int"
  | .float => "float"
  | .text => "str"
  | .bytes => "bytes"
  | .date => "date"
  | .time => "time"
  | .dateTime => "datetime"
  | .list => "list"
  | .tuple => "tuple"
  | .set => "set"
  | .table => "dict"

/-- A value counts as given unless it is null, false, zero or empty. -/
def isGiven : Value → Bool
  | .null => false
  | .bool b => b
  | .int n => n != 0
  | .float x => !x.isZero
  | .text s => !s.isEmpty
  | .bytes octets => !octets.isEmpty
  | .date _ => true
  | .time _ => true
  | .dateTime _ => true
  | .list items => !items.isEmpty
  | .tuple items => !items.isEmpty
  | .set items => !items.isEmpty
  | .table entries => !entries.isEmpty
  | .enclosing _ => true

/-- The text, if the value is one. -/
def text? : Value → Option String
  | .text s => some s
  | _ => none

/-- A value that cannot change may be a key or a member of a set: all but lists,
sets and tables. -/
def isKey : Value → Bool
  | .list _ => false
  | .set _ => false
  | .table _ => false
  | _ => true

/-- Whether a value is the number that equals nothing. -/
def isNan : Value → Bool
  | .float x => x == .nan
  | _ => false

/-- The number that a truth value or an integer stands for. -/
def integer? : Value → Option Int
  | .bool b => some (if b then 1 else 0)
  | .int n => some n
  | _ => none

/-- Whether two values are the same key.  Numbers are compared by their size, so
that `1`, `1.0` and true are one key. -/
def sameKey (v w : Value) : Bool :=
  match v, w with
  | .null, .null => true
  | .text s, .text t => s == t
  | .bytes s, .bytes t => s == t
  | .date d, .date e => d == e
  | .time d, .time e => d == e
  | .dateTime d, .dateTime e => d.same e
  | .float x, .float y => x.numEq y
  | .float x, w =>
    match w.integer? with
    | some n => x.eqInt n
    | none => false
  | v, .float y =>
    match v.integer? with
    | some n => y.eqInt n
    | none => false
  | v, w =>
    match v.integer?, w.integer? with
    | some m, some n => m == n
    | _, _ => false

/-- Put an entry into a table: an entry with the same key keeps its place and its
key and takes the new value. -/
def insertEntry (key value : Value) : List (Value × Value) → List (Value × Value)
  | [] => [(key, value)]
  | (oldKey, old) :: rest =>
    if oldKey.sameKey key then (oldKey, value) :: rest
    else (oldKey, old) :: insertEntry key value rest

/-- The value of a text key. -/
def lookup? (key : String) : List (Value × Value) → Option Value
  | [] => none
  | (.text k, value) :: rest => if k = key then some value else lookup? key rest
  | _ :: rest => lookup? key rest

/-- The value of a text key of a table, null if the table does not hold it. -/
def field (key : String) (entries : List (Value × Value)) : Value :=
  (lookup? key entries).getD .null

/-- The values that a value gives one by one: the characters of a text, the items
of a list, the keys of a table. -/
def members? : Value → Option (List Value)
  | .text s => some (s.toList.map fun c => .text (String.singleton c))
  | .bytes octets => some (octets.map fun octet => .int octet.toNat)
  | .list items => some items
  | .tuple items => some items
  | .set items => some items
  | .table entries => some (entries.map Prod.fst)
  | _ => none

end Value

end AgentFlow
