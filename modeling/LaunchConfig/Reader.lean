import LaunchConfig.Error
import LaunchConfig.Value

/-!
Typed reads of values. A reader never turns a value of one kind into another; the only test beyond
the kind is whether an integer fits the wanted width.
-/
namespace LaunchConfig

/-- A type to read values at: its name in messages, and what it makes of a value. A refusal says
what was found instead. -/
structure Reader (α : Type) where
  expected : String
  convert : Value → Except String α

namespace Reader

def read (reader : Reader α) (key : String) (value : Value) : Except ConfigError α :=
  (reader.convert value).mapError (ConfigError.typeMismatch key reader.expected)

def any : Reader Value := ⟨"any", .ok⟩

def text : Reader String where
  expected := "string"
  convert
    | .text held => .ok held
    | other => .error other.kind.name

def boolean : Reader Bool where
  expected := "boolean"
  convert
    | .boolean held => .ok held
    | other => .error other.kind.name

def integer : Reader Int64 where
  expected := "integer"
  convert
    | .integer held => .ok held
    | other => .error other.kind.name

def duration : Reader Duration where
  expected := "duration"
  convert
    | .seconds held => .ok (.ofSeconds held)
    | other => .error other.kind.name

/-- An integer from zero up to, but not including, a power of two. -/
def unsigned (expected : String) (width : Nat) (ofNat : Nat → α) : Reader α where
  expected := expected
  convert
    | .integer held =>
      if 0 ≤ held.toInt ∧ held.toInt < Nat.pow 2 width then .ok (ofNat held.toInt.toNat)
      else .error ("integer " ++ String.ofList (Numeral.decimal held.toInt) ++ " out of range")
    | other => .error other.kind.name

def u16 : Reader UInt16 := unsigned "u16" 16 UInt16.ofNat

def u32 : Reader UInt32 := unsigned "u32" 32 UInt32.ofNat

def u64 : Reader UInt64 := unsigned "u64" 64 UInt64.ofNat

/-- A size in memory, which has 64 bits. -/
def usize : Reader UInt64 := unsigned "usize" 64 UInt64.ofNat

/-- A value that may be null. -/
def optional (reader : Reader α) : Reader (Option α) where
  expected := reader.expected
  convert
    | .null => .ok none
    | value => (reader.convert value).map some

end Reader

end LaunchConfig
