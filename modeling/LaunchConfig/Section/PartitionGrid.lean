import LaunchConfig.Json.Basic
import LaunchConfig.Store.Basic
import LaunchConfig.Validation

/-!
Partitions of the simulated space along its three axes.
-/
namespace LaunchConfig

/-- Numbers of partitions along three axes. -/
structure PartitionGrid where
  x : UInt64
  y : UInt64
  z : UInt64
  deriving DecidableEq, Repr, Inhabited

namespace PartitionGrid

def ofStore (store : Store) (start : String) : Except ConfigError PartitionGrid := do
  let x ← store.get .u64 (start ++ "PART_X")
  let y ← store.get .u64 (start ++ "PART_Y")
  let z ← store.get .u64 (start ++ "PART_Z")
  return { x, y, z }

def product? (left right : UInt64) : Option UInt64 :=
  if left.toNat * right.toNat ≤ Numeral.maxUnsigned then some (left * right) else none

/-- The number of partitions. Both products on the way to it have to fit. -/
def total (grid : PartitionGrid) : Option UInt64 :=
  (product? grid.x grid.y).bind fun plane => product? plane grid.z

def display (grid : PartitionGrid) : String :=
  String.ofList (Numeral.decimal grid.x.toNat ++ 'x' :: Numeral.decimal grid.y.toNat
    ++ 'x' :: Numeral.decimal grid.z.toNat)

/-- Each axis has at least one partition, and at most as many as the space has cells along it. -/
def validate (field : String) (scale : UInt64) (grid : PartitionGrid) : Validation.Verdict := do
  Validation.count (field ++ ".x") scale grid.x
  Validation.count (field ++ ".y") scale grid.y
  Validation.count (field ++ ".z") scale grid.z

def fieldNames : List String := ["x", "y", "z"]

def toJson (grid : PartitionGrid) : Json :=
  .object [
    ("x", .integer grid.x.toNat),
    ("y", .integer grid.y.toNat),
    ("z", .integer grid.z.toNat)]

def ofJson? (json : Json) : Option PartitionGrid := do
  let record ← json.record? fieldNames
  let x ← record.field? "x" Json.u64?
  let y ← record.field? "y" Json.u64?
  let z ← record.field? "z" Json.u64?
  return { x, y, z }

end PartitionGrid

end LaunchConfig
