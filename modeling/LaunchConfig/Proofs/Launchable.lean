import LaunchConfig.Proofs.SectionOutcome
import LaunchConfig.Proofs.Validation

/-!
The stores that validation accepts, said of the values under their keys. The sections stand between
the keys and the rules; for a section that can be read, its rules are conditions on the keys that it
is read from.
-/
namespace LaunchConfig

open Text Validation

namespace Store

variable (store : Store)

def TextMeets (key : String) (rule : String → Prop) : Prop :=
  ∃ words, store.value key = .ok (.text words) ∧ rule words

def OffOrMeets (key : String) (rule : String → Prop) : Prop :=
  store.value key = .ok .null ∨ store.TextMeets key rule

def CountsUpTo (limit : Nat) (key : String) : Prop :=
  ∃ count, store.Counts key count ∧ Within limit count

/-- The period is not zero while its feature is on. -/
def Repeats (feature period : String) : Prop :=
  store.value feature = .ok (.boolean true) →
    ∃ seconds, store.value period = .ok (.seconds seconds) ∧ 0 < seconds.toNat

variable {store} {key : String}

theorem textMeets_iff {words : String} (read : store.get .text key = .ok words)
    {rule : String → Prop} : store.TextMeets key rule ↔ rule words := by
  simp [TextMeets, get_text_eq_ok_iff.mp read]

theorem offOrMeets_iff {held : Option String}
    (read : store.get Reader.text.optional key = .ok held) {rule : String → Prop} :
    store.OffOrMeets key rule ↔ ∀ words, held = some words → rule words := by
  rw [OffOrMeets, TextMeets, get_optional_text_eq_ok_iff.mp read]
  cases held <;> simp [Value.ofOption]

theorem Counts.unique {count other : Nat} (first : store.Counts key count)
    (second : store.Counts key other) : count = other := by
  obtain ⟨n, read, same⟩ := first
  obtain ⟨m, read', same'⟩ := second
  cases read.symm.trans read'
  exact Int.ofNat_inj.mp (same.symm.trans same')

theorem exists_counts_iff {count : Nat} (counts : store.Counts key count) {rule : Nat → Prop} :
    (∃ other, store.Counts key other ∧ rule other) ↔ rule count := by
  constructor
  · rintro ⟨other, counts', holds⟩
    exact counts.unique counts' ▸ holds
  · exact fun holds => ⟨count, counts, holds⟩

theorem countsUpTo_iff {count limit : Nat} (counts : store.Counts key count) :
    store.CountsUpTo limit key ↔ Within limit count :=
  exists_counts_iff counts

theorem repeats_iff {feature period : String} {on : Bool} {duration : Duration}
    (switch : store.get .boolean feature = .ok on)
    (read : store.get .duration period = .ok duration) :
    store.Repeats feature period ↔ (on = true → duration.Positive) := by
  obtain ⟨seconds, held, rfl⟩ := get_duration_eq_ok_iff.mp read
  simp [Repeats, get_boolean_eq_ok_iff.mp switch, held, Duration.Positive, Duration.ofSeconds]

end Store

namespace Deployment

@[mk_iff] structure Launchable (store : Store) : Prop where
  region : store.TextMeets "EC2_LOCATION" IsRegionName
  ubuntuImage : store.TextMeets "UBUNTU_AMI" IsImageName
  nimbusImage : store.TextMeets "NIMBUS_AMI" IsImageName
  keyName : store.TextMeets "KEY_NAME" NotBlank
  securityGroup : store.TextMeets "SECURITY_GROUP" NotBlank
  controllerType : store.TextMeets "CONTROLLER_INSTANCE_TYPE" NotBlank
  workerType : store.TextMeets "WORKER_INSTANCE_TYPE" NotBlank
  placement : store.TextMeets "EC2_LOCATION" fun region =>
    store.OffOrMeets "PLACEMENT" (IsZone region)
  placementGroup : store.OffOrMeets "PLACEMENT_GROUP" NotBlank

-- The path of the key file ends in its kind, so it is never blank.
theorem notBlank_privateKey {store : Store} (sound : store.Sound) {path : String}
    (read : store.get .text "PRIVATE_KEY" = .ok path) : NotBlank path := by
  obtain ⟨directory, name, -, -, computed⟩ := sound.privateKey
  cases (Store.get_text_eq_ok_iff.mp read).symm.trans computed
  exact ⟨'p', by simp, rfl⟩

theorem launchable_iff_valid {store : Store} (sound : store.Sound) {deployment : Deployment}
    (read : ofStore store = .ok deployment) : Launchable store ↔ deployment.Valid := by
  have given := ofStore_eq_ok_iff.mp read
  simp only [readings, Store.gives_cons] at given
  obtain ⟨region, ubuntuImage, nimbusImage, keyName, securityGroup, controllerType, workerType,
    placement, placementGroup, path, -⟩ := given
  simp only [launchable_iff, valid_iff, Store.textMeets_iff region, Store.textMeets_iff ubuntuImage,
    Store.textMeets_iff nimbusImage, Store.textMeets_iff keyName,
    Store.textMeets_iff securityGroup, Store.textMeets_iff controllerType,
    Store.textMeets_iff workerType, Store.offOrMeets_iff placement,
    Store.offOrMeets_iff placementGroup, notBlank_privateKey sound path, true_and]

end Deployment

namespace Controller

@[mk_iff] structure Launchable (store : Store) : Prop where
  assignerThreads : store.CountsUpTo 1024 "ASSIGNER_THREAD_NUM"
  assignBatch : store.CountsUpTo 1000000 "BATCH_ASSIGN_NUM"
  commandBatch : store.CountsUpTo 1000000 "COMMAND_BATCH_SIZE"
  firstPort : store.CountsUpTo 65535 "FIRST_PORT"
  balancing : store.Repeats "ACTIVATE_LB" "LB_PERIOD"
  faultTolerance : store.Repeats "ACTIVATE_FT" "FT_PERIOD"

theorem launchable_iff_valid {store : Store} {controller : Controller}
    (read : ofStore store = .ok controller) : Launchable store ↔ controller.Valid := by
  have given := ofStore_eq_ok_iff.mp read
  simp only [readings, Store.gives_cons, Store.gives_append, Store.get_u64_eq_ok_iff,
    Store.get_u16_eq_ok_iff] at given
  obtain ⟨⟨⟨assignerThreads, assignBatch, commandBatch, -⟩, -⟩, balancing, faultTolerance,
    balancingPeriod, faultPeriod, firstPort, -⟩ := given
  have narrow := controller.firstPort.toNat_lt
  have port : Within 65535 controller.firstPort.toNat ↔ 1 ≤ controller.firstPort.toNat :=
    and_iff_left (by omega)
  simp only [launchable_iff, valid_iff, Store.countsUpTo_iff assignerThreads,
    Store.countsUpTo_iff assignBatch, Store.countsUpTo_iff commandBatch,
    Store.countsUpTo_iff firstPort, port, Store.repeats_iff balancing balancingPeriod,
    Store.repeats_iff faultTolerance faultPeriod]

end Controller

namespace PartitionGrid

@[mk_iff] structure Launchable (start : String) (scale : Nat) (store : Store) : Prop where
  x : store.CountsUpTo scale (start ++ "PART_X")
  y : store.CountsUpTo scale (start ++ "PART_Y")
  z : store.CountsUpTo scale (start ++ "PART_Z")

theorem launchable_iff_valid {store : Store} {start : String} {grid : PartitionGrid} {scale : Nat}
    (given : store.Gives (grid.readings start)) :
    Launchable start scale store ↔ grid.Valid scale := by
  simp only [readings, Store.gives_cons, Store.get_u64_eq_ok_iff] at given
  obtain ⟨x, y, z, -⟩ := given
  simp only [launchable_iff, valid_iff, Store.countsUpTo_iff x, Store.countsUpTo_iff y,
    Store.countsUpTo_iff z]

end PartitionGrid

namespace Simulation

@[mk_iff] structure Launchable (store : Store) : Prop where
  scale : store.CountsUpTo (2 ^ 20) "SIMULATION_SCALE"
  partitions : ∃ scale, store.Counts "SIMULATION_SCALE" scale ∧
    PartitionGrid.Launchable "" scale store
  projection : ∃ scale, store.Counts "SIMULATION_SCALE" scale ∧
    PartitionGrid.Launchable "PROJ_" scale store
  frames : store.CountsUpTo (2 ^ 20) "FRAME_NUMBER"
  threads : store.CountsUpTo 1024 "OTHREAD_NUM"
  batch : ∃ iterations, store.Counts "MAX_ITERATION" iterations ∧
    store.CountsUpTo iterations "ITERATION_BATCH"
  iterations : store.CountsUpTo (2 ^ 20) "MAX_ITERATION"
  cpus : store.TextMeets "WORKER_TASKSET" fun words => ∃ set, CpuSet.parse words = .ok set ∧
    (store.value "RUN_WITH_TASKSET" = .ok (.boolean true) → set.cpus ≠ [])

theorem launchable_iff_valid {store : Store} {simulation : Simulation}
    (read : ofStore store = .ok simulation) : Launchable store ↔ simulation.Valid := by
  obtain ⟨given, parsed⟩ := ofStore_eq_ok_iff.mp read
  simp only [readings, Store.gives_cons, Store.gives_append, Store.get_u64_eq_ok_iff] at given
  obtain ⟨⟨⟨⟨listed, scale, -⟩, partitions⟩, projection⟩, frames, threads, batch, iterations, -, -,
    pinned, -⟩ := given
  simp only [launchable_iff, valid_iff, Store.countsUpTo_iff scale, Store.exists_counts_iff scale,
    PartitionGrid.launchable_iff_valid partitions, PartitionGrid.launchable_iff_valid projection,
    Store.countsUpTo_iff frames, Store.countsUpTo_iff threads, Store.exists_counts_iff iterations,
    Store.countsUpTo_iff batch, Store.countsUpTo_iff iterations, Store.textMeets_iff listed, parsed,
    Store.get_boolean_eq_ok_iff.mp pinned, Except.ok.injEq, Value.boolean.injEq, exists_eq_left']

end Simulation

namespace LogFiles

@[mk_iff] structure Launchable (store : Store) : Prop where
  outputPath : store.TextMeets "OUTPUT_PATH" NotBlank
  names : ∀ key ∈ ["STD_OUT_LOG", "LOAD_BALANCER_LOG", "SCHED_PER_ITER_STAT_LOG", "WORKER_LB_LOG",
      "WORKER_FINAL_STAT_LOG", "WORKER_PER_ITER_STAT_LOG"],
    store.TextMeets key fun name => NotBlank name ∧ '/' ∉ name.toList

theorem launchable_iff_valid {store : Store} {logs : LogFiles}
    (read : ofStore store = .ok logs) : Launchable store ↔ logs.Valid := by
  have given := ofStore_eq_ok_iff.mp read
  simp only [readings, Store.gives_cons] at given
  obtain ⟨standardOutput, loadBalancer, schedulerStatistics, workerBalancer, workerFinal,
    workerStatistics, outputPath, -⟩ := given
  simp only [launchable_iff, valid_iff, names, files, List.map_cons, List.map_nil,
    List.forall_mem_cons, Store.textMeets_iff standardOutput, Store.textMeets_iff loadBalancer,
    Store.textMeets_iff schedulerStatistics, Store.textMeets_iff workerBalancer,
    Store.textMeets_iff workerFinal, Store.textMeets_iff workerStatistics,
    Store.textMeets_iff outputPath, List.not_mem_nil, false_implies, implies_true]

end LogFiles

namespace Build

@[mk_iff] structure Launchable (store : Store) : Prop where
  sourceRoot : store.TextMeets "SOURCE_NIMBUS_ROOT" NotBlank
  instanceRoot : store.TextMeets "EC2_NIMBUS_ROOT" NotBlank
  applicationPath : store.TextMeets "REL_APPLICATION_PATH" IsRelative
  schedulerPath : store.TextMeets "REL_SCHEDULER_PATH" IsRelative
  workerPath : store.TextMeets "REL_WORKER_PATH" IsRelative
  nimbusLibrary : store.TextMeets "NIMBUS_LIB" IsLibrary
  applicationLibrary : store.TextMeets "APPLICATION_LIB" IsLibrary
  schedulerBinary : store.TextMeets "SCHEDULER_BINARY" NotBlank
  workerBinary : store.TextMeets "WORKER_BINARY" NotBlank

theorem launchable_iff_valid {store : Store} {build : Build}
    (read : ofStore store = .ok build) : Launchable store ↔ build.Valid := by
  have given := ofStore_eq_ok_iff.mp read
  simp only [readings, Store.gives_cons] at given
  obtain ⟨sourceRoot, instanceRoot, applicationPath, schedulerPath, workerPath, nimbusLibrary,
    applicationLibrary, schedulerBinary, workerBinary, -⟩ := given
  simp only [launchable_iff, valid_iff, Store.textMeets_iff sourceRoot,
    Store.textMeets_iff instanceRoot, Store.textMeets_iff applicationPath,
    Store.textMeets_iff schedulerPath, Store.textMeets_iff workerPath,
    Store.textMeets_iff nimbusLibrary, Store.textMeets_iff applicationLibrary,
    Store.textMeets_iff schedulerBinary, Store.textMeets_iff workerBinary]

end Build

/-- Every rule holds of the values under the keys. -/
structure Store.Launchable (store : Store) : Prop where
  deployment : Deployment.Launchable store
  controller : Controller.Launchable store
  simulation : Simulation.Launchable store
  logFiles : LogFiles.Launchable store
  build : Build.Launchable store

namespace Cluster

variable {store : Store}

theorem launchable_iff_valid (sound : store.Sound) {cluster : Cluster}
    (read : ofStore store = .ok cluster) : store.Launchable ↔ cluster.Valid := by
  simp only [ofStore, bind_eq_ok_iff] at read
  obtain ⟨deployment, read, controller, read', simulation, read'', logFiles, readLogs, build,
    readBuild, same⟩ := read
  cases same
  rw [valid_iff, ← Deployment.launchable_iff_valid sound read,
    ← Controller.launchable_iff_valid read', ← Simulation.launchable_iff_valid read'',
    ← LogFiles.launchable_iff_valid readLogs, ← Build.launchable_iff_valid readBuild]
  exact ⟨fun all => ⟨all.1, all.2, all.3, all.4, all.5⟩, fun all =>
    ⟨all.1, all.2.1, all.2.2.1, all.2.2.2.1, all.2.2.2.2⟩⟩

/-- The rules for the port and the processors leave nothing that cannot be read. -/
theorem exists_of_launchable (sound : store.Sound) (launchable : store.Launchable) :
    ∃ cluster, ofStore store = .ok cluster := by
  rcases ok_or_error (ofStore store) with read | ⟨fault, failed⟩
  · exact read
  · exfalso
    rcases sound.cluster_eq_error_iff.mp failed with
      ⟨port, held, wide, -⟩ | ⟨-, words, reason, held, bad, -⟩
    · obtain ⟨count, ⟨n, held', same⟩, -, narrow⟩ := launchable.controller.firstPort
      cases held.symm.trans held'
      omega
    · obtain ⟨words', held', set, parsed, -⟩ := launchable.simulation.cpus
      cases held.symm.trans held'
      cases bad.symm.trans parsed

end Cluster

end LaunchConfig
