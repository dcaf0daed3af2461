import LaunchConfig.Duration
import LaunchConfig.Text.Numeral
import LaunchConfig.Text.Quoted

/-!
The values that a declaration assigns to keys, and their kinds. A null value says that a setting
is switched off, which differs from a key that nobody declares.
-/
namespace LaunchConfig

inductive Value
  | null
  | boolean (held : Bool)
  | integer (held : Int64)
  | text (held : String)
  | seconds (held : UInt64)
  deriving DecidableEq, Repr, Inhabited

/-- What a value is, without what it holds. -/
inductive ValueKind
  | null
  | boolean
  | integer
  | text
  | seconds
  deriving DecidableEq, Repr

namespace ValueKind

def name : ValueKind → String
  | null => "null"
  | boolean => "boolean"
  | integer => "integer"
  | text => "string"
  | seconds => "duration"

end ValueKind

namespace Value

def kind : Value → ValueKind
  | null => .null
  | boolean _ => .boolean
  | integer _ => .integer
  | text _ => .text
  | seconds _ => .seconds

def isNull : Value → Bool
  | null => true
  | _ => false

def text? : Value → Option String
  | text held => some held
  | _ => none

/-- A duration kept in whole seconds. Nanoseconds are dropped. -/
def ofDuration (duration : Duration) : Value :=
  seconds duration.secs

/-- A value that may be absent. An absent one is null. -/
def ofOption : Option Value → Value
  | none => null
  | some value => value

/-- The value as a message shows it: texts are quoted, and seconds carry their unit. -/
def display : Value → String
  | null => "null"
  | boolean true => "true"
  | boolean false => "false"
  | integer held => String.ofList (Numeral.decimal held.toInt)
  | text held => Text.quoted held
  | seconds held => String.ofList (Numeral.decimal held.toNat ++ ['s'])

end Value

end LaunchConfig
