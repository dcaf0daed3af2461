import LaunchConfig.CommandLine.Supplied
import LaunchConfig.Text.Quoted

/-!
Invocations: a command with all its settings, as a command line asks for it.
-/
namespace LaunchConfig.CommandLine

inductive Command
  | dump (format : OutputFormat)
  | get (key : String) (json : Bool)
  | validate
  | profiles
  deriving DecidableEq, Repr

namespace Command

def truth (held : Bool) : String :=
  if held then "true" else "false"

def describe : Command → String
  | dump format => "Show \x7b format: " ++ format.title ++ " \x7d"
  | get key json => "Get \x7b key: " ++ Text.quoted key ++ ", json: " ++ truth json ++ " \x7d"
  | validate => "Validate"
  | profiles => "Profiles"

def ofSupplied? (scope : Scope) (supplied : Supplied) : Option Command :=
  match scope with
  | .top => none
  | .dump => some (.dump (((supplied.all .format).head?.bind Argument.outputFormat?).getD .json))
  | .get => some (.get ((supplied.all .key).head?.getD "") (supplied.has .json))
  | .validate => some .validate
  | .profiles => some .profiles

end Command

structure Invocation where
  command : Command
  profiles : List String
  overlays : List String
  envOverrides : Bool
  logLevel : LogLevel
  logFormat : LogFormat
  deriving DecidableEq, Repr

namespace Invocation

/-- The values of an argument. Those after the command count, and those before it only if there
are none. -/
def values (before after : Supplied) (argument : Argument) : List String :=
  if after.has argument then after.all argument else before.all argument

def ofSupplied (command : Command) (before after : Supplied) : Invocation where
  command := command
  profiles := values before after .profile
  overlays := values before after .overlay
  envOverrides := before.has .envOverrides || after.has .envOverrides
  logLevel := ((values before after .logLevel).head?.bind Argument.logLevel?).getD .warn
  logFormat := ((values before after .logFormat).head?.bind Argument.logFormat?).getD .compact

def ofWords (words : List String) : Except UsageFault Invocation := do
  let (supplied, opened) ← Supplied.nothing.read .top false words
  match opened with
  | none =>
    let before ← supplied.resolve
    throw (if before.values.isEmpty then .helpOnMissing else .missingCommand)
  | some (scope, rest) =>
    let after ← Supplied.ofCommand scope rest
    let before ← supplied.resolve
    match Command.ofSupplied? scope after with
    | some command => return ofSupplied command before after
    | none => throw .missingCommand

end Invocation

end LaunchConfig.CommandLine
