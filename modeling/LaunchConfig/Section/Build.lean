import LaunchConfig.Json.Basic
import LaunchConfig.Path
import LaunchConfig.Store.Basic
import LaunchConfig.Validation

/-!
The section on binaries: where they are built on the launching host, and where they are installed
on the instances. Paths are never expanded, because a home directory differs between the two.
-/
namespace LaunchConfig

/-- Places of sources and binaries. -/
structure Build where
  sourceRoot : String
  instanceRoot : String
  applicationPath : String
  schedulerPath : String
  workerPath : String
  nimbusLibrary : String
  applicationLibrary : String
  schedulerBinary : String
  workerBinary : String
  deriving DecidableEq, Repr, Inhabited

namespace Build

def ofStore (store : Store) : Except ConfigError Build := do
  let sourceRoot ← store.get .text "SOURCE_NIMBUS_ROOT"
  let instanceRoot ← store.get .text "EC2_NIMBUS_ROOT"
  let applicationPath ← store.get .text "REL_APPLICATION_PATH"
  let schedulerPath ← store.get .text "REL_SCHEDULER_PATH"
  let workerPath ← store.get .text "REL_WORKER_PATH"
  let nimbusLibrary ← store.get .text "NIMBUS_LIB"
  let applicationLibrary ← store.get .text "APPLICATION_LIB"
  let schedulerBinary ← store.get .text "SCHEDULER_BINARY"
  let workerBinary ← store.get .text "WORKER_BINARY"
  return { sourceRoot, instanceRoot, applicationPath, schedulerPath, workerPath, nimbusLibrary,
           applicationLibrary, schedulerBinary, workerBinary }

/-- Where the application is built. -/
def sourceApplicationDir (build : Build) : String :=
  Path.join build.sourceRoot build.applicationPath

def sourceApplicationLibrary (build : Build) : String :=
  Path.join build.sourceApplicationDir build.applicationLibrary

def schedulerDir (build : Build) : String :=
  Path.join build.instanceRoot build.schedulerPath

def workerDir (build : Build) : String :=
  Path.join build.instanceRoot build.workerPath

def installedScheduler (build : Build) : String :=
  Path.join build.schedulerDir build.schedulerBinary

def installedWorker (build : Build) : String :=
  Path.join build.workerDir build.workerBinary

/-- The application's library beside the installed worker, which loads it from there. -/
def installedApplicationLibrary (build : Build) : String :=
  Path.join build.workerDir build.applicationLibrary

/-- A path that is seen from a root: it starts neither at the top nor in a home directory. -/
def relativePath (field path : String) : Validation.Verdict := do
  Validation.notEmpty field path
  let first := path.toList.head?
  Validation.ensure (first ≠ some '/' && first ≠ some '~') (.notRelative field path)

def library (field name : String) : Validation.Verdict :=
  Validation.ensure (['.', 's', 'o'].isSuffixOf name.toList) (.notLibrary field name)

def validate (build : Build) : Validation.Verdict := do
  Validation.notEmpty "build.source_nimbus_root" build.sourceRoot
  Validation.notEmpty "build.ec2_nimbus_root" build.instanceRoot
  relativePath "build.rel_application_path" build.applicationPath
  relativePath "build.rel_scheduler_path" build.schedulerPath
  relativePath "build.rel_worker_path" build.workerPath
  library "build.nimbus_lib" build.nimbusLibrary
  library "build.application_lib" build.applicationLibrary
  Validation.notEmpty "build.scheduler_binary" build.schedulerBinary
  Validation.notEmpty "build.worker_binary" build.workerBinary

def fieldNames : List String :=
  ["source_nimbus_root", "ec2_nimbus_root", "rel_application_path", "rel_scheduler_path",
    "rel_worker_path", "nimbus_lib", "application_lib", "scheduler_binary", "worker_binary"]

def toJson (build : Build) : Json :=
  .object [
    ("source_nimbus_root", .string build.sourceRoot),
    ("ec2_nimbus_root", .string build.instanceRoot),
    ("rel_application_path", .string build.applicationPath),
    ("rel_scheduler_path", .string build.schedulerPath),
    ("rel_worker_path", .string build.workerPath),
    ("nimbus_lib", .string build.nimbusLibrary),
    ("application_lib", .string build.applicationLibrary),
    ("scheduler_binary", .string build.schedulerBinary),
    ("worker_binary", .string build.workerBinary)]

def ofJson? (json : Json) : Option Build := do
  let record ← json.record? fieldNames
  let sourceRoot ← record.field? "source_nimbus_root" Json.string?
  let instanceRoot ← record.field? "ec2_nimbus_root" Json.string?
  let applicationPath ← record.field? "rel_application_path" Json.string?
  let schedulerPath ← record.field? "rel_scheduler_path" Json.string?
  let workerPath ← record.field? "rel_worker_path" Json.string?
  let nimbusLibrary ← record.field? "nimbus_lib" Json.string?
  let applicationLibrary ← record.field? "application_lib" Json.string?
  let schedulerBinary ← record.field? "scheduler_binary" Json.string?
  let workerBinary ← record.field? "worker_binary" Json.string?
  return { sourceRoot, instanceRoot, applicationPath, schedulerPath, workerPath, nimbusLibrary,
           applicationLibrary, schedulerBinary, workerBinary }

end Build

end LaunchConfig
