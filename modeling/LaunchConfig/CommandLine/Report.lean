import LaunchConfig.CommandLine.Execution
import LaunchConfig.CommandLine.Help
import LaunchConfig.Log.Filter

/-!
What the program leaves behind: its exit status, its output, the events that it logs, and the report
of a failure.
-/
namespace LaunchConfig.CommandLine

structure Report where
  status : Nat
  output : String
  logged : List Event
  complaint : String
  deriving DecidableEq, Repr

def versionText : String := "nimbus-config 0.1.0"

/-- A text whose later lines are indented like its first one. -/
def indented (text : String) : String :=
  String.ofList ("    ".toList ++ text.toList.flatMap fun c =>
    if c = '\n' then "\n    ".toList else [c])

/-- The report of a failure: what was being done, and below it the cause. -/
def Failure.report (failure : Failure) : String :=
  match failure.context with
  | some context => "Error: " ++ context ++ "\n\nCaused by:\n" ++ indented failure.cause.message
  | none => "Error: " ++ failure.cause.message

namespace Invocation

def run (invocation : Invocation) (surroundings : Surroundings) : Report :=
  let wanted := surroundings.environment.lookup Filter.environmentName
  let filter := Filter.choose invocation.logLevel.name wanted
  let logged := (invocation.events surroundings).filter filter.passes
  match invocation.execute surroundings with
  | .ok text => ⟨0, text ++ "\n", logged, ""⟩
  | .error failure => ⟨1, "", logged, failure.report⟩

end Invocation

namespace Report

/-- The end of a run whose command line gives no command to run. Help and the version are asked for
and go to the output; all else is a complaint. -/
def ofFault : UsageFault → Report
  | .help => ⟨0, helpText ++ "\n", [], ""⟩
  | .version => ⟨0, versionText ++ "\n", [], ""⟩
  | fault => ⟨2, "", [], fault.message⟩

def ofWords (words : List String) (surroundings : Surroundings) : Report :=
  match Invocation.ofWords words with
  | .ok invocation => invocation.run surroundings
  | .error fault => ofFault fault

end Report

end LaunchConfig.CommandLine
