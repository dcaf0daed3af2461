import LaunchConfig.Error
import LaunchConfig.Json.Basic
import LaunchConfig.Text.Blank

/-!
Sets of processors, written as a list of numbers and ranges. The set keeps the text that it was
written as.
-/
namespace LaunchConfig

/-- Processors by number, and the text that lists them. -/
structure CpuSet where
  spec : String
  cpus : List UInt64
  deriving DecidableEq, Repr, Inhabited

namespace CpuSet

def highest : Nat := 4095

def cpu (text : List Char) : Except Reason Nat :=
  match Numeral.unsigned Numeral.maxUnsigned (Text.trimChars text) with
  | .error _ => .error (.notCpu (String.ofList text))
  | .ok number =>
    if number ≤ highest then .ok number else .error (.cpuAbove number highest)

/-- The processors collected so far, and then those that a part of the list names. -/
def collect (cpus : List Nat) (part : List Char) : Except Reason (List Nat) :=
  match Text.cut? '-' part with
  | none => do
    let number ← cpu part
    return cpus ++ [number]
  | some (start, stop) => do
    let first ← cpu start
    let last ← cpu stop
    if last < first then throw (.reversedRange (String.ofList part))
    else return cpus ++ List.range' first (last + 1 - first)

def listed (spec : String) : List (List Char) :=
  (Text.parts ',' spec.toList).filter fun part => !part.all Text.isBlank

/-- The numbers from the smallest to the largest, each once. -/
def ordered (numbers : List Nat) : List Nat :=
  (numbers.mergeSort (· ≤ ·)).eraseReps

def parse (spec : String) : Except Reason CpuSet := do
  let cpus ← (listed spec).foldlM collect []
  return ⟨spec, (ordered cpus).map UInt64.ofNat⟩

def size (set : CpuSet) : Nat :=
  set.cpus.length

def isEmpty (set : CpuSet) : Bool :=
  set.cpus.isEmpty

def toJson (set : CpuSet) : Json :=
  .object [
    ("raw", .string set.spec),
    ("cpus", .array (set.cpus.map fun number => .integer number.toNat))]

/-- The set of a JSON form, whose numbers are taken as they are given. -/
def ofJson? (json : Json) : Option CpuSet := do
  let record ← json.record? ["raw", "cpus"]
  let spec ← record.field? "raw" Json.string?
  let cpus ← record.field? "cpus" fun held => held.array?.bind fun items => items.mapM Json.u64?
  return ⟨spec, cpus⟩

end CpuSet

end LaunchConfig
