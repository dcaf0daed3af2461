import LaunchConfig.Duration
import LaunchConfig.Json.Basic

/-!
Durations in the JSON form of sections: whole seconds and the nanoseconds beside them.
-/
namespace LaunchConfig.Duration

def fieldNames : List String := ["secs", "nanos"]

def toJson (duration : Duration) : Json :=
  .object [("secs", .integer duration.secs.toNat), ("nanos", .integer duration.nanos.toNat)]

def onlyParts (json : Json) : Bool :=
  match json with
  | .object members => members.all fun member => fieldNames.contains member.1
  | _ => true

/-- The duration of a JSON form. Other members are refused, and so are more seconds than fit. -/
def ofJson? (json : Json) : Option Duration := do
  guard (onlyParts json)
  let record ← json.record? fieldNames
  let secs ← record.field? "secs" Json.u64?
  let nanos ← record.field? "nanos" Json.u32?
  ofParts? secs nanos

end LaunchConfig.Duration
