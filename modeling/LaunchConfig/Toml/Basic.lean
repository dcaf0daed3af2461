import LaunchConfig.Binary64
import LaunchConfig.Toml.Moment

/-!
TOML values. The entries of a table are listed by ascending key.
-/
namespace LaunchConfig

inductive Toml
  | text (held : String)
  | integer (held : Int64)
  | float (held : Binary64)
  | boolean (held : Bool)
  | moment (held : Toml.Moment)
  | array (items : List Toml)
  | table (entries : List (String × Toml))
  deriving Inhabited

namespace Toml

def kindName : Toml → String
  | text _ => "string"
  | integer _ => "integer"
  | float _ => "float"
  | boolean _ => "boolean"
  | moment _ => "datetime"
  | array _ => "array"
  | table _ => "table"

end Toml

end LaunchConfig
