import LaunchConfig.Declaration.Manifest
import LaunchConfig.Declaration.Overlay
import LaunchConfig.Declaration.Overrides

/-!
Operations that build up a declaration step by step. Each brings assignments of its own, unless
their text has a fault, and then it changes nothing.
-/
namespace LaunchConfig.Declaration

/-- A step in building up a declaration. -/
inductive Operation
  | set (key : String) (value : Value)
  | merge (other : Declaration)
  | mergeToml (source : String)
  | mergeOverrides (start : String) (environment : List (String × String))
  | restart
  deriving Repr

namespace Operation

def contribution : Operation → Except ConfigError Declaration
  | set key value => .ok ⟨[(key, value)]⟩
  | merge other => .ok other
  | mergeToml source => ofToml source
  | mergeOverrides start environment => ofOverrides start environment
  | restart => .ok manifest

/-- The declaration after an operation. Starting over forgets all earlier assignments. -/
def perform (operation : Operation) (declaration : Declaration) : Declaration :=
  match operation, operation.contribution with
  | restart, _ => manifest
  | _, .ok part => declaration.merge part
  | _, .error _ => declaration

def run (operations : List Operation) : Declaration :=
  operations.foldl (fun declaration operation => operation.perform declaration) .empty

end Operation

end LaunchConfig.Declaration
