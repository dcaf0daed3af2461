import LaunchConfig.Declaration.Basic
import LaunchConfig.Schema.Raw
import LaunchConfig.Schema.Table

/-!
Overrides from environment variables. The name of such a variable is a key of the schema after a
common start; all other variables are passed over.
-/
namespace LaunchConfig.Declaration

def variableStart : String := "NIMBUS_"

def overridden? (start name : String) : Option KeySpec :=
  (Text.dropStart? start name).bind Schema.lookup?

/-- The overriding variables of an environment, each as its key and text. -/
def overriding (start : String) (environment : List (String × String)) : List (KeySpec × String) :=
  environment.filterMap fun (name, raw) => (overridden? start name).map fun spec => (spec, raw)

def overrideAssignment (override : KeySpec × String) : Except ConfigError (String × Value) := do
  let value ← override.1.parseRaw override.2
  return (override.1.key, value)

/-- The assignments that an environment makes, in the order of its variables. -/
def ofOverrides (start : String) (environment : List (String × String)) :
    Except ConfigError Declaration := do
  let assigned ← (overriding start environment).mapM overrideAssignment
  return ⟨assigned⟩

end LaunchConfig.Declaration
