import LaunchConfig.Error
import LaunchConfig.Text.Blank
import LaunchConfig.Value

/-!
Keys of the launch schema: what a key is for, which values it takes, and how its value is written
in an environment variable. A key checks the value that it is to store; the only change it makes
to a value is to take a plain integer as a number of seconds where it stores a duration.
-/
namespace LaunchConfig

/-- What a key is about. The order is that of the constructors. -/
inductive Category
  | deployment
  | controller
  | simulation
  | logging
  | build
  | other
  deriving DecidableEq, Repr, Inhabited

namespace Category

def all : List Category := [deployment, controller, simulation, logging, build, other]

def name : Category → String
  | deployment => "deployment"
  | controller => "controller"
  | simulation => "simulation"
  | logging => "logging"
  | build => "build"
  | other => "other"

def title : Category → String
  | deployment => "Deployment"
  | controller => "Controller"
  | simulation => "Simulation"
  | logging => "Logging"
  | build => "Build"
  | other => "Other"

def ofTitle? (title : String) : Option Category :=
  all.find? fun category => category.title = title

def rank : Category → Nat
  | deployment => 0
  | controller => 1
  | simulation => 2
  | logging => 3
  | build => 4
  | other => 5

instance : LT Category := ⟨fun left right => left.rank < right.rank⟩

instance (left right : Category) : Decidable (left < right) :=
  inferInstanceAs (Decidable (left.rank < right.rank))

end Category

/-- Which values a key takes. -/
inductive KeyKind
  | text
  | count
  | boolean
  | duration
  deriving DecidableEq, Repr

namespace KeyKind

def name : KeyKind → String
  | text => "string"
  | count => "non-negative integer"
  | boolean => "boolean"
  | duration => "duration"

end KeyKind

/-- A key of the schema. A nullable key may be switched off by a null value; a derived key is
computed from others and never stored. -/
structure KeySpec where
  key : String
  category : Category
  kind : KeyKind
  nullable : Bool
  derived : Bool
  description : String
  deriving DecidableEq, Repr

namespace KeySpec

/-- The value as the key stores it. -/
def normalize (spec : KeySpec) : Value → Value
  | .integer held =>
    if spec.kind = .duration ∧ 0 ≤ held.toInt then .seconds (UInt64.ofNat held.toInt.toNat)
    else .integer held
  | value => value

def mismatch (spec : KeySpec) (value : Value) : ConfigError :=
  .typeMismatch spec.key (if value.isNull then "non-null " ++ spec.kind.name else spec.kind.name)
    value.kind.name

/-- Accepts the values that the key may store. -/
def check (spec : KeySpec) (value : Value) : Except ConfigError Unit :=
  match spec.kind, value with
  | _, .null => if spec.nullable then .ok () else .error (spec.mismatch .null)
  | .text, .text _ => .ok ()
  | .count, .integer held =>
    if held.toInt < 0 then .error (.invalidValue spec.key (.negative held)) else .ok ()
  | .boolean, .boolean _ => .ok ()
  | .duration, .seconds _ => .ok ()
  | _, other => .error (spec.mismatch other)

def accept (spec : KeySpec) (value : Value) : Except ConfigError Value := do
  let stored := spec.normalize value
  spec.check stored
  return stored

end KeySpec

end LaunchConfig
