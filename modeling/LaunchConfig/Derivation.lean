import LaunchConfig.Reader

/-!
Derived keys. Their values are computed from other stored keys whenever they are read, so they can
never disagree with them.
-/
namespace LaunchConfig

inductive Derivation
  | instanceNum
  | privateKey
  deriving DecidableEq, Repr

namespace Derivation

/-- All derived keys, in the order in which they are checked. -/
def all : List Derivation := [instanceNum, privateKey]

def key : Derivation → String
  | instanceNum => "INSTANCE_NUM"
  | privateKey => "PRIVATE_KEY"

/-- The keys that the value is computed from. -/
def inputs : Derivation → List String
  | instanceNum => ["CONTROLLER_NUM", "WORKER_NUM"]
  | privateKey => ["PRIVATE_KEY_DIR", "KEY_NAME"]

def lookup? (key : String) : Option Derivation :=
  all.find? fun derivation => derivation.key = key

def input (reader : Reader α) (entries : String → Option Value) (key : String) :
    Except ConfigError α :=
  match entries key with
  | some value => reader.read key value
  | none => .error (.missingRequired [key])

def sum? (left right : Int64) : Option Int64 :=
  let total := left.toInt + right.toInt
  if -(Numeral.maxSigned + 1) ≤ total ∧ total ≤ Numeral.maxSigned then some (Int64.ofInt total) else none

/-- The value of a derived key over stored entries: the number of all instances, or the path of
the key file in its directory. -/
def compute (derivation : Derivation) (entries : String → Option Value) :
    Except ConfigError Value :=
  match derivation with
  | instanceNum => do
    let controllers ← input .integer entries "CONTROLLER_NUM"
    let workers ← input .integer entries "WORKER_NUM"
    match sum? controllers workers with
    | some total => return .integer total
    | none => throw (.invalidValue "INSTANCE_NUM" .countOverflow)
  | privateKey => do
    let directory ← input .text entries "PRIVATE_KEY_DIR"
    let name ← input .text entries "KEY_NAME"
    return .text (directory ++ name ++ ".pem")

def describe (derivation : Derivation) : String :=
  "Derivation \x7b key: " ++ Text.quoted derivation.key ++ ", inputs: ["
    ++ ", ".intercalate (derivation.inputs.map Text.quoted) ++ "] \x7d"

end Derivation

end LaunchConfig
