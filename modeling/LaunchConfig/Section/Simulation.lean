import LaunchConfig.CpuSet
import LaunchConfig.Section.PartitionGrid

/-!
The section on the simulation that the workers run.
-/
namespace LaunchConfig

structure Simulation where
  scale : UInt64
  partitions : PartitionGrid
  projection : PartitionGrid
  frames : UInt64
  threads : UInt64
  batch : UInt64
  iterations : UInt64
  skipsProjection : Bool
  writesPerPart : Bool
  pinned : Bool
  cpus : CpuSet
  deriving DecidableEq, Repr, Inhabited

namespace Simulation

def cpusKey : String := "WORKER_TASKSET"

/-- The section of a store. The list of processors is read as a text before the other keys, and
understood after them. -/
def ofStore (store : Store) : Except ConfigError Simulation := do
  let listed ← store.get .text cpusKey
  let scale ← store.get .u64 "SIMULATION_SCALE"
  let partitions ← PartitionGrid.ofStore store ""
  let projection ← PartitionGrid.ofStore store "PROJ_"
  let frames ← store.get .u64 "FRAME_NUMBER"
  let threads ← store.get .u64 "OTHREAD_NUM"
  let batch ← store.get .u64 "ITERATION_BATCH"
  let iterations ← store.get .u64 "MAX_ITERATION"
  let skipsProjection ← store.get .boolean "NO_PROJ_BOTTLENECK"
  let writesPerPart ← store.get .boolean "WRITE_PER_PART"
  let pinned ← store.get .boolean "RUN_WITH_TASKSET"
  let cpus ← (CpuSet.parse listed).mapError (ConfigError.invalidValue cpusKey)
  return { scale, partitions, projection, frames, threads, batch, iterations, skipsProjection,
           writesPerPart, pinned, cpus }

/-- The largest scale, number of frames and number of iterations. -/
def extent : UInt64 := 1048576

/-- Checks the rules of the section. A batch has at most as many iterations as there are, but the
limit never drops below one. -/
def validate (simulation : Simulation) : Validation.Verdict := do
  Validation.count "simulation.scale" extent simulation.scale
  simulation.partitions.validate "simulation.partitions" simulation.scale
  simulation.projection.validate "simulation.projection_partitions" simulation.scale
  Validation.count "simulation.frame_number" extent simulation.frames
  Validation.count "simulation.othread_num" 1024 simulation.threads
  Validation.count "simulation.iteration_batch"
    (if simulation.iterations = 0 then 1 else simulation.iterations) simulation.batch
  Validation.count "simulation.max_iteration" extent simulation.iterations
  Validation.ensure (!simulation.pinned || !simulation.cpus.isEmpty) .noCpus

def fieldNames : List String :=
  ["scale", "partitions", "projection_partitions", "frame_number", "othread_num",
    "iteration_batch", "max_iteration", "no_proj_bottleneck", "write_per_part", "run_with_taskset",
    "worker_taskset"]

def toJson (simulation : Simulation) : Json :=
  .object [
    ("scale", .integer simulation.scale.toNat),
    ("partitions", simulation.partitions.toJson),
    ("projection_partitions", simulation.projection.toJson),
    ("frame_number", .integer simulation.frames.toNat),
    ("othread_num", .integer simulation.threads.toNat),
    ("iteration_batch", .integer simulation.batch.toNat),
    ("max_iteration", .integer simulation.iterations.toNat),
    ("no_proj_bottleneck", .boolean simulation.skipsProjection),
    ("write_per_part", .boolean simulation.writesPerPart),
    ("run_with_taskset", .boolean simulation.pinned),
    ("worker_taskset", simulation.cpus.toJson)]

def ofJson? (json : Json) : Option Simulation := do
  let record ← json.record? fieldNames
  let scale ← record.field? "scale" Json.u64?
  let partitions ← record.field? "partitions" PartitionGrid.ofJson?
  let projection ← record.field? "projection_partitions" PartitionGrid.ofJson?
  let frames ← record.field? "frame_number" Json.u64?
  let threads ← record.field? "othread_num" Json.u64?
  let batch ← record.field? "iteration_batch" Json.u64?
  let iterations ← record.field? "max_iteration" Json.u64?
  let skipsProjection ← record.field? "no_proj_bottleneck" Json.boolean?
  let writesPerPart ← record.field? "write_per_part" Json.boolean?
  let pinned ← record.field? "run_with_taskset" Json.boolean?
  let cpus ← record.field? "worker_taskset" CpuSet.ofJson?
  return { scale, partitions, projection, frames, threads, batch, iterations, skipsProjection,
           writesPerPart, pinned, cpus }

end Simulation

end LaunchConfig
