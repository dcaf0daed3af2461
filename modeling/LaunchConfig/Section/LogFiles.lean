import LaunchConfig.Json.Basic
import LaunchConfig.Path
import LaunchConfig.Store.Basic
import LaunchConfig.Validation

/-!
The section on log files: how they are called, and where they are collected.
-/
namespace LaunchConfig

/-- Names of the log files, and the directory where they are collected. -/
structure LogFiles where
  standardOutput : String
  loadBalancer : String
  schedulerStatistics : String
  workerBalancer : String
  workerFinal : String
  workerStatistics : String
  outputPath : String
  deriving DecidableEq, Repr, Inhabited

namespace LogFiles

def ofStore (store : Store) : Except ConfigError LogFiles := do
  let standardOutput ← store.get .text "STD_OUT_LOG"
  let loadBalancer ← store.get .text "LOAD_BALANCER_LOG"
  let schedulerStatistics ← store.get .text "SCHED_PER_ITER_STAT_LOG"
  let workerBalancer ← store.get .text "WORKER_LB_LOG"
  let workerFinal ← store.get .text "WORKER_FINAL_STAT_LOG"
  let workerStatistics ← store.get .text "WORKER_PER_ITER_STAT_LOG"
  let outputPath ← store.get .text "OUTPUT_PATH"
  return { standardOutput, loadBalancer, schedulerStatistics, workerBalancer, workerFinal,
           workerStatistics, outputPath }

/-- The names of the files, each under its field. -/
def files (logs : LogFiles) : List (String × String) := [
  ("log_files.std_out_log", logs.standardOutput),
  ("log_files.load_balancer_log", logs.loadBalancer),
  ("log_files.sched_per_iter_stat_log", logs.schedulerStatistics),
  ("log_files.worker_lb_log", logs.workerBalancer),
  ("log_files.worker_final_stat_log", logs.workerFinal),
  ("log_files.worker_per_iter_stat_log", logs.workerStatistics)]

def collectedPath (logs : LogFiles) (name : String) : String :=
  Path.join logs.outputPath name

/-- A name of a file that leads to no other directory. -/
def fileName (field name : String) : Validation.Verdict := do
  Validation.notEmpty field name
  Validation.ensure (!name.toList.contains Path.separator) (.notFileName field name)

def validate (logs : LogFiles) : Validation.Verdict := do
  Validation.notEmpty "log_files.output_path" logs.outputPath
  logs.files.forM fun (field, name) => fileName field name

def fieldNames : List String :=
  ["std_out_log", "load_balancer_log", "sched_per_iter_stat_log", "worker_lb_log",
    "worker_final_stat_log", "worker_per_iter_stat_log", "output_path"]

def toJson (logs : LogFiles) : Json :=
  .object [
    ("std_out_log", .string logs.standardOutput),
    ("load_balancer_log", .string logs.loadBalancer),
    ("sched_per_iter_stat_log", .string logs.schedulerStatistics),
    ("worker_lb_log", .string logs.workerBalancer),
    ("worker_final_stat_log", .string logs.workerFinal),
    ("worker_per_iter_stat_log", .string logs.workerStatistics),
    ("output_path", .string logs.outputPath)]

def ofJson? (json : Json) : Option LogFiles := do
  let record ← json.record? fieldNames
  let standardOutput ← record.field? "std_out_log" Json.string?
  let loadBalancer ← record.field? "load_balancer_log" Json.string?
  let schedulerStatistics ← record.field? "sched_per_iter_stat_log" Json.string?
  let workerBalancer ← record.field? "worker_lb_log" Json.string?
  let workerFinal ← record.field? "worker_final_stat_log" Json.string?
  let workerStatistics ← record.field? "worker_per_iter_stat_log" Json.string?
  let outputPath ← record.field? "output_path" Json.string?
  return { standardOutput, loadBalancer, schedulerStatistics, workerBalancer, workerFinal,
           workerStatistics, outputPath }

end LogFiles

end LaunchConfig
