import LaunchConfig.Log.Format
import LaunchConfig.Text.Blank
import LaunchConfig.Text.Numeral

/-!
Least levels of what is logged, and their names as words and numbers.
-/
namespace LaunchConfig

/-- The least level that is logged. Nothing is logged when there is none. -/
structure Threshold where
  least : Option LogLevel
  deriving DecidableEq, Repr

namespace Threshold

def off : Threshold := ⟨none⟩

def passes (threshold : Threshold) (level : LogLevel) : Bool :=
  match threshold.least with
  | some least => least.weight ≤ level.weight
  | none => false

/-- The threshold with a number, from nothing up to everything. -/
def ofNumber? : Nat → Option Threshold
  | 0 => some off
  | 1 => some ⟨some .error⟩
  | 2 => some ⟨some .warn⟩
  | 3 => some ⟨some .info⟩
  | 4 => some ⟨some .debug⟩
  | 5 => some ⟨some .trace⟩
  | _ => none

def ofWord? (word : String) : Option Threshold :=
  if word = "off" then some off
  else (LogLevel.all.find? fun level => level.name = word).map fun level => ⟨some level⟩

def ofChars? (cs : List Char) : Option Threshold :=
  match Numeral.unsigned Numeral.maxUnsigned cs with
  | .ok number => ofNumber? number
  | .error _ => ofWord? (Text.lowercase (String.ofList cs))

end Threshold

end LaunchConfig
