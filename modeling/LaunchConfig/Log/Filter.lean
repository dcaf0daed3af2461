import LaunchConfig.Log.Directive

/-!
Which events are logged. A filter is a list of directives, and the most specific one that fits an
event decides.
-/
namespace LaunchConfig

structure Filter where
  directives : List Directive
  deriving DecidableEq, Repr

namespace Filter

/-- The filter that a text writes: directives between commas, of which empty ones do not count. -/
def parse? (text : String) : Option Filter :=
  let written := (Text.parts ',' text.toList).filter fun part => !part.isEmpty
  (written.mapM Directive.parse?).map fun rules =>
    if written.isEmpty then ⟨[Directive.fallback]⟩ else ⟨rules.flatten⟩

/-- The most specific rule about an event. Of two equally specific ones, the later counts. -/
def deciding? (filter : Filter) (event : Event) : Option Directive :=
  (filter.directives.filter fun directive => directive.concerns event).foldl
    (fun best directive => match best with
      | some held => if directive.outranks held then some directive else some held
      | none => some directive)
    none

def passes (filter : Filter) (event : Event) : Bool :=
  match filter.deciding? event with
  | some directive => directive.threshold.passes event.level
  | none => false

def environmentName : String := "RUST_LOG"

/-- The filter of a level, unless the environment has a usable one. -/
def choose (level : String) (environment : Option String) : Filter :=
  match environment.bind parse? with
  | some filter => filter
  | none => (parse? level).getD ⟨[]⟩

end Filter

end LaunchConfig
