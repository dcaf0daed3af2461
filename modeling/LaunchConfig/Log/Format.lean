import LaunchConfig.Text.Blank

/-!
Log levels, the formats of log lines, and the settings of a log.
-/
namespace LaunchConfig

/-- How much an event matters, from the least on. -/
inductive LogLevel
  | trace
  | debug
  | info
  | warn
  | error
  deriving DecidableEq, Repr

namespace LogLevel

def all : List LogLevel := [trace, debug, info, warn, error]

def name : LogLevel → String
  | trace => "trace"
  | debug => "debug"
  | info => "info"
  | warn => "warn"
  | error => "error"

def label : LogLevel → String
  | trace => "TRACE"
  | debug => "DEBUG"
  | info => "INFO"
  | warn => "WARN"
  | error => "ERROR"

def weight : LogLevel → Nat
  | trace => 0
  | debug => 1
  | info => 2
  | warn => 3
  | error => 4

end LogLevel

inductive LogFormat
  | json
  | pretty
  | compact
  deriving DecidableEq, Repr

namespace LogFormat

def all : List LogFormat := [json, pretty, compact]

def name : LogFormat → String
  | json => "json"
  | pretty => "pretty"
  | compact => "compact"

/-- The format with a name, in small or capital letters. -/
def ofText? (text : String) : Option LogFormat :=
  all.find? fun format => format.name = Text.lowercase text

/-- What is said of a text that names no format. -/
def refusal (text : String) : String :=
  "unsupported log format: " ++ text

end LogFormat

structure LogSettings where
  level : String
  format : LogFormat
  location : Bool
  threadId : Bool
  threadName : Bool
  deriving DecidableEq, Repr

namespace LogSettings

/-- The settings of a level and a format: places in the source are shown, threads are not. -/
def of (level : String) (format : LogFormat) : LogSettings :=
  ⟨level, format, true, false, false⟩

/-- The settings that hold unless others are asked for. -/
def standard : LogSettings := of "info" .json

def withoutLocation (settings : LogSettings) : LogSettings :=
  { settings with location := false }

end LogSettings

end LaunchConfig
