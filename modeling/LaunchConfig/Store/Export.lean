import LaunchConfig.Declaration.Overlay
import LaunchConfig.Json.Printer
import LaunchConfig.Store.Basic

/-!
A store as text. In JSON a null value is written as such; TOML has no null, so there the keys of
null values go to the list that overlays switch keys off with.
-/
namespace LaunchConfig

/-- The JSON form of a value. A duration is its number of seconds. -/
def Value.toJson : Value → Json
  | null => .null
  | boolean held => .boolean held
  | integer held => .integer held.toInt
  | text held => .string held
  | seconds held => .integer held.toNat

/-- The TOML form of a key's value. A null value has none. -/
def Value.toToml? (key : String) : Value → Except ConfigError (Option Toml)
  | null => .ok none
  | boolean held => .ok (some (.boolean held))
  | integer held => .ok (some (.integer held))
  | text held => .ok (some (.text held))
  | seconds held =>
    if held.toNat ≤ Numeral.maxSigned then .ok (some (.integer (Int64.ofInt held.toNat)))
    else .error (.invalidValue key .tooLongForToml)

namespace Store

def entryJson (entry : String × Setting) : Json :=
  .object [
    ("key", .string entry.1),
    ("value", entry.2.value.toJson),
    ("category", .string entry.2.category.title)]

/-- All values as one JSON object, by ascending key. -/
def toJson (store : Store) : Except ConfigError Json := do
  let snapshot ← store.snapshot
  return .object (snapshot.pairs.map fun (key, value) => (key, value.toJson))

/-- All values as one TOML table. A list of switched-off keys stands in it only when it is not
empty, and then takes the place of a setting of its name. -/
def toTable (store : Store) : Except ConfigError (KeyMap Toml) := do
  let snapshot ← store.snapshot
  let written ← snapshot.pairs.mapM fun (key, value) => do
    let held ← value.toToml? key
    return (key, held)
  let shown := KeyMap.ofList (written.filterMap fun (key, held) => held.map fun held => (key, held))
  let hidden := written.filterMap fun (key, held) => if held.isNone then some key else none
  if hidden.isEmpty then return shown
  else return shown.insert Declaration.disabledKey (.array (hidden.map Toml.text))

def jsonText (store : Store) : Except ConfigError String := do
  let json ← store.toJson
  return json.indented

def tomlText (store : Store) : Except ConfigError String := do
  let table ← store.toTable
  return Toml.document table.pairs

end Store

end LaunchConfig
