import LaunchConfig.CommandLine.Invocation
import LaunchConfig.Log.Journal
import LaunchConfig.Section.Cluster
import LaunchConfig.Store.Export

/-!
Running commands. A command sees files and environment variables only as values, so its text, its
failure and its journal are functions of them.
-/
namespace LaunchConfig.CommandLine

/-- What a command may read: files by path, and the environment variables in their order. -/
structure Surroundings where
  file : String → Except FileFault ByteArray
  environment : List (String × String)

/-- A failure of a command: its cause, and what was being done. -/
structure Failure where
  context : Option String
  cause : ConfigError
  deriving DecidableEq, Repr

namespace Failure

def chain (failure : Failure) : List String :=
  failure.context.toList ++ [failure.cause.message]

/-- Says what was being done when an error came up. -/
def within (context : String) (outcome : Except ConfigError α) : Except Failure α :=
  outcome.mapError fun cause => ⟨some context, cause⟩

def bare (outcome : Except ConfigError α) : Except Failure α :=
  outcome.mapError fun cause => ⟨none, cause⟩

end Failure

def padded (width : Nat) (text : String) : String :=
  text ++ String.ofList (List.replicate (width - text.length) ' ')

/-- The line of a profile in a listing. The default profile is marked. -/
def profileLine (profile : Profile) : String :=
  (if profile.name = Profile.defaultName then "* " else "  ") ++ padded 16 profile.name ++ " "
    ++ profile.description

def profileListing (registry : Registry) : String :=
  "\n".intercalate (registry.profiles.pairs.map fun entry => profileLine entry.2)

/-- The text of a single value: texts stand as they are. -/
def valueText (json : Bool) (value : Value) : String :=
  if json then value.toJson.compact
  else match value.text? with
    | some held => held
    | none => value.display

def validText (store : Store) (cluster : Cluster) : String :=
  "✓ 配置验证通过: 档案 " ++ "+".intercalate store.profiles
    ++ ", 配置项 " ++ String.ofList (Numeral.decimal store.keys.length)
    ++ ", 实例数 " ++ String.ofList (Numeral.decimal cluster.deployment.instances.toNat)

namespace Invocation

def overlayContext (path : String) : String :=
  "加载覆盖文件失败: " ++ path

def fileOverlays (invocation : Invocation) (surroundings : Surroundings) :
    Except Failure (List Declaration) :=
  invocation.overlays.mapM fun path =>
    Failure.within (overlayContext path) (Declaration.ofFile path (surroundings.file path))

def variableOverlays (invocation : Invocation) (surroundings : Surroundings) :
    Except Failure (List Declaration) :=
  if invocation.envOverrides then
    (Failure.within "解析环境变量覆盖失败"
      (Declaration.ofOverrides Declaration.variableStart surroundings.environment)).map ([·])
  else .ok []

def blueprint (invocation : Invocation) (surroundings : Surroundings) :
    Except Failure Blueprint := do
  let files ← invocation.fileOverlays surroundings
  let overrides ← invocation.variableOverlays surroundings
  return { Blueprint.standard with
    profiles := invocation.profiles
    overlays := files ++ overrides }

def store (invocation : Invocation) (surroundings : Surroundings) : Except Failure Store := do
  let blueprint ← invocation.blueprint surroundings
  Failure.within "构建配置失败" blueprint.build

end Invocation

def readSections (store : Store) : Except Failure Cluster :=
  Failure.within "读取分组配置失败" (Cluster.ofStore store)

def dumpText (format : OutputFormat) (store : Store) : Except Failure String :=
  match format with
  | .json => Failure.bare store.jsonText
  | .toml => Failure.bare store.tomlText
  | .sections => (readSections store).map Cluster.jsonText

def validationText (store : Store) : Except Failure String := do
  let cluster ← readSections store
  Failure.within "配置验证失败" (cluster.validate.mapError ConfigError.validation)
  return validText store cluster

def answer (command : Command) (store : Store) : Except Failure String :=
  match command with
  | .dump format => dumpText format store
  | .get key json =>
    (Failure.within ("读取配置项失败: " ++ key) (store.value key)).map (valueText json)
  | .validate => validationText store
  | .profiles => .ok (profileListing Registry.standard)

namespace Invocation

/-- The text of an invocation. Profiles are listed without building a store. -/
def execute (invocation : Invocation) (surroundings : Surroundings) : Except Failure String :=
  match invocation.command with
  | .profiles => .ok (profileListing Registry.standard)
  | command => do
    let store ← invocation.store surroundings
    answer command store

/-- The events of reading overlay files, up to the first that fails. -/
def overlayEvents (surroundings : Surroundings) : List String → List Event
  | [] => []
  | path :: rest =>
    match Declaration.ofFile path (surroundings.file path) with
    | .ok declaration => .overlayLoaded path declaration.size :: overlayEvents surroundings rest
    | .error _ => []

def storeEvents (invocation : Invocation) (surroundings : Surroundings) : List Event :=
  let loaded := overlayEvents surroundings invocation.overlays
  let overridden :=
    if invocation.envOverrides then
      Journal.ofOverrides Declaration.variableStart surroundings.environment
    else []
  match invocation.fileOverlays surroundings, invocation.blueprint surroundings with
  | .error _, _ => loaded
  | .ok _, .error _ => loaded ++ overridden
  | .ok _, .ok blueprint => loaded ++ overridden ++ Journal.ofBuild blueprint

def logSettings (invocation : Invocation) : LogSettings :=
  (LogSettings.of invocation.logLevel.name invocation.logFormat).withoutLocation

def events (invocation : Invocation) (surroundings : Surroundings) : List Event :=
  let started := [.loggingReady invocation.logSettings, .running invocation.command.describe]
  match invocation.command with
  | .profiles => started
  | .validate =>
    started ++ invocation.storeEvents surroundings
      ++ (if (invocation.execute surroundings).isOk then [.validated] else [])
  | _ => started ++ invocation.storeEvents surroundings

end Invocation

end LaunchConfig.CommandLine
