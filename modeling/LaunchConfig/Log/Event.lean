import LaunchConfig.Declaration.Basic
import LaunchConfig.Json.Printer
import LaunchConfig.Log.Format

/-!
Events that are logged while a command runs. An event has a level, a target, which names the part
of the program it comes from, a message, and named fields.
-/
namespace LaunchConfig

inductive Event
  | loggingReady (settings : LogSettings)
  | running (command : String)
  | validated
  | overlayLoaded (path : String) (assignments : Nat)
  | overridden (key : String) (value : Value)
  | overrideIgnored (name : String)
  | redeclared (redeclaration : Declaration.Redeclaration)
  | profileApplied (name : String) (overrides : Nat)
  | keyOutsideSchema (key : String)
  | derivationAgrees (key : String)
  | storeReady (profiles : List String) (keys derived : Nat)
  deriving DecidableEq, Repr

namespace Event

def level : Event → LogLevel
  | validated | storeReady .. => .info
  | overrideIgnored _ | keyOutsideSchema _ => .warn
  | _ => .debug

/-- The part of the program that the event comes from. -/
def target : Event → String
  | loggingReady _ => "nimbus_observability::telemetry_setup"
  | running _ | validated => "nimbus::app"
  | overlayLoaded .. | overridden .. | overrideIgnored _ | redeclared _ =>
      "nimbus_config::declaration"
  | profileApplied .. | keyOutsideSchema _ | derivationAgrees _ | storeReady .. =>
      "nimbus_config::store"

def message : Event → String
  | loggingReady _ => "logging initialized"
  | running command => "执行命令: " ++ command
  | validated => "配置验证通过"
  | overlayLoaded .. => "loaded TOML overlay"
  | overridden .. => "environment override"
  | overrideIgnored _ => "ignoring override for unknown configuration key"
  | redeclared _ => "key redeclared"
  | profileApplied .. => "applying profile"
  | keyOutsideSchema _ => "key is not part of the launch schema"
  | derivationAgrees _ => "explicit value agrees with derivation"
  | storeReady .. => "configuration store ready"

/-- The named fields of the event, without its message. -/
def details : Event → List (String × Json)
  | loggingReady settings => [
      ("logging.format", .string settings.format.name),
      ("logging.level", .string settings.level),
      ("logging.location", .boolean settings.location)]
  | running _ | validated => []
  | overlayLoaded path assignments => [
      ("path", .string path),
      ("assignments", .integer assignments)]
  | overridden key value => [("key", .string key), ("value", .string value.display)]
  | overrideIgnored name => [("variable", .string name)]
  | redeclared redeclaration => [
      ("key", .string redeclaration.key),
      ("from", .string redeclaration.earlier.display),
      ("to", .string redeclaration.later.display)]
  | profileApplied name overrides => [
      ("profile", .string name),
      ("overrides", .integer overrides)]
  | keyOutsideSchema key | derivationAgrees key => [("key", .string key)]
  | storeReady profiles keys derived => [
      ("profiles", .string ("+".intercalate profiles)),
      ("keys", .integer keys),
      ("derived", .integer derived)]

def fields (event : Event) : KeyMap Json :=
  KeyMap.ofList (("message", .string event.message) :: event.details)

def toJson (event : Event) : Json :=
  .object [
    ("fields", .object event.fields.pairs),
    ("level", .string event.level.label),
    ("target", .string event.target)]

def line (format : LogFormat) (event : Event) : String :=
  match format with
  | .json => event.toJson.compact
  | .pretty | .compact =>
    event.level.label ++ " " ++ event.target ++ ": " ++ event.message
      ++ String.join (event.details.map fun (name, held) => " " ++ name ++ "=" ++ held.compact)

end Event

end LaunchConfig
