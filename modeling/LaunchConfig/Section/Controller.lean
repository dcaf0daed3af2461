import LaunchConfig.Duration.Json
import LaunchConfig.Store.Basic
import LaunchConfig.Validation

/-!
The section on the controller: how it assigns work, and which of its features are on.
-/
namespace LaunchConfig

/-- Optimizations of the controller that are switched off. -/
structure Deactivation where
  controllerTemplate : Bool
  complexMemoization : Bool
  bindingMemoization : Bool
  workerTemplate : Bool
  megaJob : Bool
  queryCache : Bool
  deriving DecidableEq, Repr, Inhabited

namespace Deactivation

def ofStore (store : Store) : Except ConfigError Deactivation := do
  let controllerTemplate ← store.get .boolean "DEACTIVATE_CONTROLLER_TEMPLATE"
  let complexMemoization ← store.get .boolean "DEACTIVATE_COMPLEX_MEMOIZATION"
  let bindingMemoization ← store.get .boolean "DEACTIVATE_BINDING_MEMOIZATION"
  let workerTemplate ← store.get .boolean "DEACTIVATE_WORKER_TEMPLATE"
  let megaJob ← store.get .boolean "DEACTIVATE_MEGA_RCR_JOB"
  let queryCache ← store.get .boolean "DEACTIVATE_DM_QUERY_CACHE"
  return { controllerTemplate, complexMemoization, bindingMemoization, workerTemplate, megaJob,
           queryCache }

/-- The switches with their keys. -/
def switches (flags : Deactivation) : List (Bool × String) := [
  (flags.controllerTemplate, "DEACTIVATE_CONTROLLER_TEMPLATE"),
  (flags.complexMemoization, "DEACTIVATE_COMPLEX_MEMOIZATION"),
  (flags.bindingMemoization, "DEACTIVATE_BINDING_MEMOIZATION"),
  (flags.workerTemplate, "DEACTIVATE_WORKER_TEMPLATE"),
  (flags.megaJob, "DEACTIVATE_MEGA_RCR_JOB"),
  (flags.queryCache, "DEACTIVATE_DM_QUERY_CACHE")]

/-- The keys of the optimizations that are switched off. -/
def keys (flags : Deactivation) : List String :=
  (flags.switches.filter Prod.fst).map Prod.snd

def fieldNames : List String :=
  ["controller_template", "complex_memoization", "binding_memoization", "worker_template",
    "mega_rcr_job", "dm_query_cache"]

def toJson (flags : Deactivation) : Json :=
  .object [
    ("controller_template", .boolean flags.controllerTemplate),
    ("complex_memoization", .boolean flags.complexMemoization),
    ("binding_memoization", .boolean flags.bindingMemoization),
    ("worker_template", .boolean flags.workerTemplate),
    ("mega_rcr_job", .boolean flags.megaJob),
    ("dm_query_cache", .boolean flags.queryCache)]

def ofJson? (json : Json) : Option Deactivation := do
  let record ← json.record? fieldNames
  let controllerTemplate ← record.field? "controller_template" Json.boolean?
  let complexMemoization ← record.field? "complex_memoization" Json.boolean?
  let bindingMemoization ← record.field? "binding_memoization" Json.boolean?
  let workerTemplate ← record.field? "worker_template" Json.boolean?
  let megaJob ← record.field? "mega_rcr_job" Json.boolean?
  let queryCache ← record.field? "dm_query_cache" Json.boolean?
  return { controllerTemplate, complexMemoization, bindingMemoization, workerTemplate, megaJob,
           queryCache }

end Deactivation

/-- Settings of the controller. -/
structure Controller where
  assignerThreads : UInt64
  assignBatch : UInt64
  commandBatch : UInt64
  deactivate : Deactivation
  balancing : Bool
  faultTolerance : Bool
  balancingPeriod : Duration
  faultPeriod : Duration
  firstPort : UInt16
  deriving DecidableEq, Inhabited

namespace Controller

def ofStore (store : Store) : Except ConfigError Controller := do
  let assignerThreads ← store.get .u64 "ASSIGNER_THREAD_NUM"
  let assignBatch ← store.get .u64 "BATCH_ASSIGN_NUM"
  let commandBatch ← store.get .u64 "COMMAND_BATCH_SIZE"
  let deactivate ← Deactivation.ofStore store
  let balancing ← store.get .boolean "ACTIVATE_LB"
  let faultTolerance ← store.get .boolean "ACTIVATE_FT"
  let balancingPeriod ← store.get .duration "LB_PERIOD"
  let faultPeriod ← store.get .duration "FT_PERIOD"
  let firstPort ← store.get .u16 "FIRST_PORT"
  return { assignerThreads, assignBatch, commandBatch, deactivate, balancing, faultTolerance,
           balancingPeriod, faultPeriod, firstPort }

/-- Checks the rules of the section. A period counts only while its feature is on. -/
def validate (controller : Controller) : Validation.Verdict := do
  Validation.count "controller.assigner_thread_num" 1024 controller.assignerThreads
  Validation.count "controller.batch_assign_num" 1000000 controller.assignBatch
  Validation.count "controller.command_batch_size" 1000000 controller.commandBatch
  Validation.port "controller.first_port" controller.firstPort
  if controller.balancing then
    Validation.period "controller.lb_period" controller.balancingPeriod
  if controller.faultTolerance then
    Validation.period "controller.ft_period" controller.faultPeriod

def fieldNames : List String :=
  ["assigner_thread_num", "batch_assign_num", "command_batch_size", "deactivate", "activate_lb",
    "activate_ft", "lb_period", "ft_period", "first_port"]

def toJson (controller : Controller) : Json :=
  .object [
    ("assigner_thread_num", .integer controller.assignerThreads.toNat),
    ("batch_assign_num", .integer controller.assignBatch.toNat),
    ("command_batch_size", .integer controller.commandBatch.toNat),
    ("deactivate", controller.deactivate.toJson),
    ("activate_lb", .boolean controller.balancing),
    ("activate_ft", .boolean controller.faultTolerance),
    ("lb_period", controller.balancingPeriod.toJson),
    ("ft_period", controller.faultPeriod.toJson),
    ("first_port", .integer controller.firstPort.toNat)]

def ofJson? (json : Json) : Option Controller := do
  let record ← json.record? fieldNames
  let assignerThreads ← record.field? "assigner_thread_num" Json.u64?
  let assignBatch ← record.field? "batch_assign_num" Json.u64?
  let commandBatch ← record.field? "command_batch_size" Json.u64?
  let deactivate ← record.field? "deactivate" Deactivation.ofJson?
  let balancing ← record.field? "activate_lb" Json.boolean?
  let faultTolerance ← record.field? "activate_ft" Json.boolean?
  let balancingPeriod ← record.field? "lb_period" Duration.ofJson?
  let faultPeriod ← record.field? "ft_period" Duration.ofJson?
  let firstPort ← record.field? "first_port" Json.u16?
  return { assignerThreads, assignBatch, commandBatch, deactivate, balancing, faultTolerance,
           balancingPeriod, faultPeriod, firstPort }

end Controller

end LaunchConfig
