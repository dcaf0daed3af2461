import LaunchConfig.Log.Format

/-!
The arguments that the command line knows, and where each of them may stand.
-/
namespace LaunchConfig.CommandLine

inductive Argument
  | profile
  | overlay
  | envOverrides
  | logLevel
  | logFormat
  | format
  | json
  | help
  | version
  | key
  deriving DecidableEq, Repr

namespace Argument

/-- The name after two dashes. The key has none, because it is given by its place. -/
def long? : Argument → Option String
  | profile => some "profile"
  | overlay => some "overlay"
  | envOverrides => some "env-overrides"
  | logLevel => some "log-level"
  | logFormat => some "log-format"
  | format => some "format"
  | json => some "json"
  | help => some "help"
  | version => some "version"
  | key => none

def short? : Argument → Option Char
  | profile => some 'p'
  | overlay => some 'o'
  | logLevel => some 'l'
  | format => some 'f'
  | help => some 'h'
  | version => some 'V'
  | envOverrides | logFormat | json | key => none

def takesValue : Argument → Bool
  | profile | overlay | logLevel | logFormat | format => true
  | envOverrides | json | help | version | key => false

def repeats : Argument → Bool
  | profile | overlay => true
  | _ => false

end Argument

inductive OutputFormat
  | json
  | toml
  | sections
  deriving DecidableEq, Repr

namespace OutputFormat

def all : List OutputFormat := [json, toml, sections]

def name : OutputFormat → String
  | json => "json"
  | toml => "toml"
  | sections => "sections"

def title : OutputFormat → String
  | json => "Json"
  | toml => "Toml"
  | sections => "Sections"

end OutputFormat

namespace Argument

def logLevel? (value : String) : Option LogLevel :=
  LogLevel.all.find? fun level => level.name = value

def logFormat? (value : String) : Option LogFormat :=
  LogFormat.all.find? fun format => format.name = value

def outputFormat? (value : String) : Option OutputFormat :=
  OutputFormat.all.find? fun format => format.name = value

def accepts (argument : Argument) (value : String) : Bool :=
  match argument with
  | overlay => !value.isEmpty
  | logLevel => (logLevel? value).isSome
  | logFormat => (logFormat? value).isSome
  | format => (outputFormat? value).isSome
  | _ => true

end Argument

/-- The parts of a command line: before the command, and after each of the commands. -/
inductive Scope
  | top
  | dump
  | get
  | validate
  | profiles
  deriving DecidableEq, Repr

namespace Scope

def commands : List Scope := [dump, get, validate, profiles]

def word? : Scope → Option String
  | top => none
  | dump => some "show"
  | get => some "get"
  | validate => some "validate"
  | profiles => some "profiles"

/-- Arguments that may stand in every scope. -/
def shared : List Argument :=
  [.profile, .overlay, .envOverrides, .logLevel, .logFormat, .help]

/-- The arguments with a name that may stand in a scope. -/
def options : Scope → List Argument
  | top => .version :: shared
  | dump => .format :: shared
  | get => .json :: shared
  | validate | profiles => shared

def positional? : Scope → Option Argument
  | get => some .key
  | _ => none

def long? (scope : Scope) (name : String) : Option Argument :=
  scope.options.find? fun argument => argument.long? = some name

def short? (scope : Scope) (letter : Char) : Option Argument :=
  scope.options.find? fun argument => argument.short? = some letter

def command? (name : String) : Option Scope :=
  commands.find? fun scope => scope.word? = some name

end Scope

end LaunchConfig.CommandLine
