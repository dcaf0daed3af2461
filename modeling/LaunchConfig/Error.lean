import LaunchConfig.Text.Numeral

/-!
The ways in which configuration can fail. An error names its cause; the wording of every cause
stands in one `message` function each.
-/
namespace LaunchConfig

/-- Why a value is refused for its key. -/
inductive Reason
  | negative (held : Int64)
  | notInteger (text : String) (fault : NumeralFault)
  | notBoolean (text : String)
  | notSeconds (text : String) (fault : NumeralFault)
  | countOverflow
  | declaredAndDisabled
  | tooLongForToml
  | notCpu (text : String)
  | cpuAbove (cpu limit : Nat)
  | reversedRange (range : String)
  | stated (words : String)
  deriving DecidableEq, Repr

/-- What is wrong with a section's field. -/
inductive Complaint
  | empty (field : String)
  | zero (field : String)
  | notPositive (field : String)
  | above (field : String) (limit : Nat)
  | noPeriod (field : String)
  | notImage (field image : String)
  | notRegion (field region : String)
  | notZone (zone region : String)
  | notFileName (field name : String)
  | notRelative (field path : String)
  | notLibrary (field name : String)
  | noCpus
  | stated (words : String)
  deriving DecidableEq, Repr

/-- Why a text is no overlay. -/
inductive ParseFault
  | malformedToml
  | disabledEntry (found : String)
  | disabledList (found : String)
  | unsupported (key kind : String)
  | stated (words : String)
  deriving DecidableEq, Repr

/-- Why a file gives no text. -/
inductive FileFault
  | missing
  | directory
  | notDirectory
  | denied
  | notText
  | stated (words : String)
  deriving DecidableEq, Repr

/-- What went wrong while files were read. -/
inductive IoFault
  | unreadable (path : String) (fault : FileFault)
  | stated (words : String)
  deriving DecidableEq, Repr

inductive ConfigError
  | unknownKey (key : String)
  | typeMismatch (key expected found : String)
  | derivationConflict (key declared derived : String)
  | missingRequired (keys : List String)
  | invalidValue (key : String) (reason : Reason)
  | unknownProfile (name : String)
  | validation (complaint : Complaint)
  | parse (fault : ParseFault)
  | io (fault : IoFault)
  deriving DecidableEq, Repr

namespace Reason

def message : Reason → String
  | negative held => "must be non-negative, got " ++ String.ofList (Numeral.decimal held.toInt)
  | notInteger text fault => "'" ++ text ++ "' is not an integer: " ++ fault.message
  | notBoolean text => "'" ++ text ++ "' is not a boolean"
  | notSeconds text fault => "'" ++ text ++ "' is not a number of seconds: " ++ fault.message
  | countOverflow => "instance count overflows"
  | declaredAndDisabled => "declared and disabled in the same overlay"
  | tooLongForToml => "duration too large for TOML"
  | notCpu text => "'" ++ text ++ "' is not a CPU number"
  | cpuAbove cpu limit => "CPU " ++ String.ofList (Numeral.decimal cpu) ++ " is above "
      ++ String.ofList (Numeral.decimal limit)
  | reversedRange range => "range " ++ range ++ " is reversed"
  | stated words => words

end Reason

namespace Complaint

def message : Complaint → String
  | empty field => field ++ " cannot be empty"
  | zero field => field ++ " cannot be 0"
  | notPositive field => field ++ " must be greater than 0"
  | above field limit => field ++ " must be less than or equal to "
      ++ String.ofList (Numeral.decimal limit)
  | noPeriod field => field ++ " must be greater than 0 seconds"
  | notImage field image => field ++ " is not a machine image id: " ++ image
  | notRegion field region => field ++ " is not a region name: " ++ region
  | notZone zone region => "deployment.placement " ++ zone ++ " is not a zone of " ++ region
  | notFileName field name => field ++ " must be a file name, not a path: " ++ name
  | notRelative field path => field ++ " must be relative to the nimbus root: " ++ path
  | notLibrary field name => field ++ " must be a shared library (.so): " ++ name
  | noCpus => "simulation.worker_taskset cannot be empty when running with taskset"
  | stated words => words

end Complaint

namespace ParseFault

def message : ParseFault → String
  | malformedToml => "TOML parse error"
  | disabledEntry found => "'disabled' entries must be key names, found " ++ found
  | disabledList found => "'disabled' must be an array of key names, found " ++ found
  | unsupported key kind => "unsupported value for '" ++ key ++ "': " ++ kind
      ++ " (expected string, integer or boolean)"
  | stated words => words

end ParseFault

namespace FileFault

/-- The fault in words, with the number that the operating system gives it. -/
def message : FileFault → String
  | missing => "No such file or directory (os error 2)"
  | directory => "Is a directory (os error 21)"
  | notDirectory => "Not a directory (os error 20)"
  | denied => "Permission denied (os error 13)"
  | notText => "stream did not contain valid UTF-8"
  | stated words => words

end FileFault

namespace IoFault

def message : IoFault → String
  | unreadable path fault => "failed to read overlay " ++ path ++ ": " ++ fault.message
  | stated words => words

end IoFault

namespace ConfigError

def message : ConfigError → String
  | unknownKey key => "unknown configuration key: " ++ key
  | typeMismatch key expected found =>
      "type mismatch for '" ++ key ++ "': expected " ++ expected ++ ", found " ++ found
  | derivationConflict key declared derived =>
      "derivation conflict for '" ++ key ++ "': declared " ++ declared ++ ", derived " ++ derived
  | missingRequired keys => "required configuration key missing: " ++ ", ".intercalate keys
  | invalidValue key reason => "invalid value for '" ++ key ++ "': " ++ reason.message
  | unknownProfile name => "unknown configuration profile: " ++ name
  | validation complaint => "validation error: " ++ complaint.message
  | parse fault => "parse error: " ++ fault.message
  | io fault => "io error: " ++ fault.message

/-- An error reported by other means, as its causes from the innermost outward. Only the outermost
one is kept. -/
def ofReport (innermost : String) (contexts : List String) : ConfigError :=
  validation (.stated (contexts.getLast?.getD innermost))

end ConfigError

end LaunchConfig
