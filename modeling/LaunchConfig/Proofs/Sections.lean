import LaunchConfig.Proofs.Reading
import LaunchConfig.Section.Cluster
import Mathlib.Tactic.Tauto

/-!
The sections of a store as lists of readings. A section is what the store gives for it exactly when
each of its readings comes from the store; the set of processors is also understood from its text.
-/
namespace LaunchConfig

namespace Deployment

def readings (deployment : Deployment) : List Reading := [
  ⟨.text, "EC2_LOCATION", deployment.region⟩,
  ⟨.text, "UBUNTU_AMI", deployment.ubuntuImage⟩,
  ⟨.text, "NIMBUS_AMI", deployment.nimbusImage⟩,
  ⟨.text, "KEY_NAME", deployment.keyName⟩,
  ⟨.text, "SECURITY_GROUP", deployment.securityGroup⟩,
  ⟨.text, "CONTROLLER_INSTANCE_TYPE", deployment.controllerType⟩,
  ⟨.text, "WORKER_INSTANCE_TYPE", deployment.workerType⟩,
  ⟨.optional .text, "PLACEMENT", deployment.placement⟩,
  ⟨.optional .text, "PLACEMENT_GROUP", deployment.placementGroup⟩,
  ⟨.text, "PRIVATE_KEY", deployment.privateKey⟩,
  ⟨.u64, "CONTROLLER_NUM", deployment.controllers⟩,
  ⟨.u64, "WORKER_NUM", deployment.workers⟩]

theorem ofStore_eq_ok_iff {store : Store} {deployment : Deployment} :
    ofStore store = .ok deployment ↔ store.Gives deployment.readings := by
  cases deployment
  simp [ofStore, Store.privateKeyPath, Derivation.key, bind_eq_ok_iff, pure, Except.pure, readings]

end Deployment

namespace Deactivation

def readings (flags : Deactivation) : List Reading := [
  ⟨.boolean, "DEACTIVATE_CONTROLLER_TEMPLATE", flags.controllerTemplate⟩,
  ⟨.boolean, "DEACTIVATE_COMPLEX_MEMOIZATION", flags.complexMemoization⟩,
  ⟨.boolean, "DEACTIVATE_BINDING_MEMOIZATION", flags.bindingMemoization⟩,
  ⟨.boolean, "DEACTIVATE_WORKER_TEMPLATE", flags.workerTemplate⟩,
  ⟨.boolean, "DEACTIVATE_MEGA_RCR_JOB", flags.megaJob⟩,
  ⟨.boolean, "DEACTIVATE_DM_QUERY_CACHE", flags.queryCache⟩]

theorem ofStore_eq_ok_iff {store : Store} {flags : Deactivation} :
    ofStore store = .ok flags ↔ store.Gives flags.readings := by
  cases flags
  simp [-Bool.exists_bool, ofStore, bind_eq_ok_iff, pure, Except.pure, readings]

end Deactivation

namespace Controller

def readings (controller : Controller) : List Reading := [
  ⟨.u64, "ASSIGNER_THREAD_NUM", controller.assignerThreads⟩,
  ⟨.u64, "BATCH_ASSIGN_NUM", controller.assignBatch⟩,
  ⟨.u64, "COMMAND_BATCH_SIZE", controller.commandBatch⟩] ++ controller.deactivate.readings ++ [
  ⟨.boolean, "ACTIVATE_LB", controller.balancing⟩,
  ⟨.boolean, "ACTIVATE_FT", controller.faultTolerance⟩,
  ⟨.duration, "LB_PERIOD", controller.balancingPeriod⟩,
  ⟨.duration, "FT_PERIOD", controller.faultPeriod⟩,
  ⟨.u16, "FIRST_PORT", controller.firstPort⟩]

theorem ofStore_eq_ok_iff {store : Store} {controller : Controller} :
    ofStore store = .ok controller ↔ store.Gives controller.readings := by
  cases controller
  simp [-Bool.exists_bool, ofStore, bind_eq_ok_iff, pure, Except.pure,
    Deactivation.ofStore_eq_ok_iff, readings]

end Controller

namespace PartitionGrid

def readings (start : String) (grid : PartitionGrid) : List Reading := [
  ⟨.u64, start ++ "PART_X", grid.x⟩,
  ⟨.u64, start ++ "PART_Y", grid.y⟩,
  ⟨.u64, start ++ "PART_Z", grid.z⟩]

theorem ofStore_eq_ok_iff {store : Store} {start : String} {grid : PartitionGrid} :
    ofStore store start = .ok grid ↔ store.Gives (grid.readings start) := by
  cases grid
  simp [ofStore, bind_eq_ok_iff, pure, Except.pure, readings]

end PartitionGrid

theorem CpuSet.spec_of_parse {text : String} {set : CpuSet} (parsed : parse text = .ok set) :
    set.spec = text := by
  obtain ⟨cpus, -, same⟩ := bind_eq_ok_iff.mp parsed
  rw [← Except.ok.inj same]

namespace Simulation

def readings (simulation : Simulation) : List Reading := [
  ⟨.text, "WORKER_TASKSET", simulation.cpus.spec⟩,
  ⟨.u64, "SIMULATION_SCALE", simulation.scale⟩]
  ++ simulation.partitions.readings "" ++ simulation.projection.readings "PROJ_" ++ [
  ⟨.u64, "FRAME_NUMBER", simulation.frames⟩,
  ⟨.u64, "OTHREAD_NUM", simulation.threads⟩,
  ⟨.u64, "ITERATION_BATCH", simulation.batch⟩,
  ⟨.u64, "MAX_ITERATION", simulation.iterations⟩,
  ⟨.boolean, "NO_PROJ_BOTTLENECK", simulation.skipsProjection⟩,
  ⟨.boolean, "WRITE_PER_PART", simulation.writesPerPart⟩,
  ⟨.boolean, "RUN_WITH_TASKSET", simulation.pinned⟩]

-- The set of processors keeps the text that it was read from, so the text is read too.
theorem ofStore_eq_ok_iff {store : Store} {simulation : Simulation} :
    ofStore store = .ok simulation ↔ store.Gives simulation.readings ∧
      CpuSet.parse simulation.cpus.spec = .ok simulation.cpus := by
  simp only [ofStore, cpusKey, bind_eq_ok_iff, mapError_eq_ok_iff, PartitionGrid.ofStore_eq_ok_iff]
  constructor
  · rintro ⟨words, listed, _, scale, _, partitions, _, projection, _, frames, _, threads, _, batch,
      _, iterations, _, skips, _, writes, _, pinned, _, parsed, same⟩
    cases same
    obtain rfl := CpuSet.spec_of_parse parsed
    simp [readings, *]
  · rintro ⟨given, parsed⟩
    simp only [readings, Store.gives_append, Store.gives_cons, Store.gives_nil] at given
    obtain ⟨⟨⟨⟨listed, scale, -⟩, partitions⟩, projection⟩, frames, threads, batch, iterations,
      skips, writes, pinned, -⟩ := given
    exact ⟨_, listed, _, scale, _, partitions, _, projection, _, frames, _, threads, _, batch,
      _, iterations, _, skips, _, writes, _, pinned, _, parsed, rfl⟩

end Simulation

namespace LogFiles

def readings (logs : LogFiles) : List Reading := [
  ⟨.text, "STD_OUT_LOG", logs.standardOutput⟩,
  ⟨.text, "LOAD_BALANCER_LOG", logs.loadBalancer⟩,
  ⟨.text, "SCHED_PER_ITER_STAT_LOG", logs.schedulerStatistics⟩,
  ⟨.text, "WORKER_LB_LOG", logs.workerBalancer⟩,
  ⟨.text, "WORKER_FINAL_STAT_LOG", logs.workerFinal⟩,
  ⟨.text, "WORKER_PER_ITER_STAT_LOG", logs.workerStatistics⟩,
  ⟨.text, "OUTPUT_PATH", logs.outputPath⟩]

theorem ofStore_eq_ok_iff {store : Store} {logs : LogFiles} :
    ofStore store = .ok logs ↔ store.Gives logs.readings := by
  cases logs
  simp [ofStore, bind_eq_ok_iff, pure, Except.pure, readings]

end LogFiles

namespace Build

def readings (build : Build) : List Reading := [
  ⟨.text, "SOURCE_NIMBUS_ROOT", build.sourceRoot⟩,
  ⟨.text, "EC2_NIMBUS_ROOT", build.instanceRoot⟩,
  ⟨.text, "REL_APPLICATION_PATH", build.applicationPath⟩,
  ⟨.text, "REL_SCHEDULER_PATH", build.schedulerPath⟩,
  ⟨.text, "REL_WORKER_PATH", build.workerPath⟩,
  ⟨.text, "NIMBUS_LIB", build.nimbusLibrary⟩,
  ⟨.text, "APPLICATION_LIB", build.applicationLibrary⟩,
  ⟨.text, "SCHEDULER_BINARY", build.schedulerBinary⟩,
  ⟨.text, "WORKER_BINARY", build.workerBinary⟩]

theorem ofStore_eq_ok_iff {store : Store} {build : Build} :
    ofStore store = .ok build ↔ store.Gives build.readings := by
  cases build
  simp [ofStore, bind_eq_ok_iff, pure, Except.pure, readings]

end Build

namespace Cluster

def readings (cluster : Cluster) : List Reading :=
  cluster.deployment.readings ++ cluster.controller.readings ++ cluster.simulation.readings
    ++ cluster.logFiles.readings ++ cluster.build.readings

theorem ofStore_eq_ok_iff {store : Store} {cluster : Cluster} :
    ofStore store = .ok cluster ↔ store.Gives cluster.readings ∧
      CpuSet.parse cluster.simulation.cpus.spec = .ok cluster.simulation.cpus := by
  cases cluster
  simp [ofStore, bind_eq_ok_iff, pure, Except.pure, Deployment.ofStore_eq_ok_iff,
    Controller.ofStore_eq_ok_iff, Simulation.ofStore_eq_ok_iff, LogFiles.ofStore_eq_ok_iff,
    Build.ofStore_eq_ok_iff, readings]
  tauto

end Cluster

end LaunchConfig
