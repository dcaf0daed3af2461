import LaunchConfig.Json.Printer
import LaunchConfig.Section.Build
import LaunchConfig.Section.Controller
import LaunchConfig.Section.Deployment
import LaunchConfig.Section.LogFiles
import LaunchConfig.Section.Simulation

/-!
All sections of a configuration together.
-/
namespace LaunchConfig

/-- The sections of a cluster's configuration. -/
structure Cluster where
  deployment : Deployment
  controller : Controller
  simulation : Simulation
  logFiles : LogFiles
  build : Build
  deriving DecidableEq, Inhabited

namespace Cluster

def ofStore (store : Store) : Except ConfigError Cluster := do
  let deployment ← Deployment.ofStore store
  let controller ← Controller.ofStore store
  let simulation ← Simulation.ofStore store
  let logFiles ← LogFiles.ofStore store
  let build ← Build.ofStore store
  return { deployment, controller, simulation, logFiles, build }

def validate (cluster : Cluster) : Validation.Verdict := do
  cluster.deployment.validate
  cluster.controller.validate
  cluster.simulation.validate
  cluster.logFiles.validate
  cluster.build.validate

def fieldNames : List String :=
  ["deployment", "controller", "simulation", "log_files", "build"]

def toJson (cluster : Cluster) : Json :=
  .object [
    ("deployment", cluster.deployment.toJson),
    ("controller", cluster.controller.toJson),
    ("simulation", cluster.simulation.toJson),
    ("log_files", cluster.logFiles.toJson),
    ("build", cluster.build.toJson)]

def ofJson? (json : Json) : Option Cluster := do
  let record ← json.record? fieldNames
  let deployment ← record.field? "deployment" Deployment.ofJson?
  let controller ← record.field? "controller" Controller.ofJson?
  let simulation ← record.field? "simulation" Simulation.ofJson?
  let logFiles ← record.field? "log_files" LogFiles.ofJson?
  let build ← record.field? "build" Build.ofJson?
  return { deployment, controller, simulation, logFiles, build }

def jsonText (cluster : Cluster) : String :=
  cluster.toJson.indented

end Cluster

end LaunchConfig
