import LaunchConfig.Declaration.Basic
import LaunchConfig.Error
import LaunchConfig.Toml.Printer
import LaunchConfig.Toml.Reader

/-!
Overlays written in TOML. An overlay is a flat table of texts, integers and truth values; one
reserved key lists the keys that the overlay switches off.
-/
namespace LaunchConfig.Declaration

/-- The reserved key of the list of switched-off keys. -/
def disabledKey : String := "disabled"

def disabledName : Toml → Except ConfigError String
  | .text name => .ok name
  | other => .error (.parse (.disabledEntry other.inline))

def disabledNames (table : KeyMap Toml) : Except ConfigError (List String) :=
  match table.get? disabledKey with
  | none => .ok []
  | some (.array items) => items.mapM disabledName
  | some other => .error (.parse (.disabledList other.inline))

def assignedValue (disabled : List String) (key : String) (held : Toml) :
    Except ConfigError Value :=
  if key ∈ disabled then .error (.invalidValue key .declaredAndDisabled)
  else match held with
    | .text held => .ok (.text held)
    | .integer held => .ok (.integer held)
    | .boolean held => .ok (.boolean held)
    | other => .error (.parse (.unsupported key other.kindName))

/-- The assignments of an overlay: its keys in ascending order, then the keys that it switches
off. -/
def ofTable (table : KeyMap Toml) : Except ConfigError Declaration := do
  let disabled ← disabledNames table
  let assigned ← (table.erase disabledKey).pairs.mapM fun (key, held) => do
    let value ← assignedValue disabled key held
    return (key, value)
  return ⟨assigned ++ disabled.map fun key => (key, .null)⟩

def ofToml (source : String) : Except ConfigError Declaration :=
  match Toml.parse? source with
  | some table => ofTable table
  | none => .error (.parse .malformedToml)

/-- The overlay in a file, whose bytes could be read or not. -/
def ofFile (path : String) (content : Except FileFault ByteArray) :
    Except ConfigError Declaration :=
  match content with
  | .error fault => .error (.io (.unreadable path fault))
  | .ok bytes =>
    match String.fromUTF8? bytes with
    | some source => ofToml source
    | none => .error (.io (.unreadable path .notText))

end LaunchConfig.Declaration
