import LaunchConfig.Proofs.Names
import LaunchConfig.Proofs.Steps
import LaunchConfig.Section.Cluster
import Mathlib.Algebra.Group.Nat.Defs
import Mathlib.Tactic.MkIffOfInductiveProp

/-!
What the rules of the sections accept. A section passes when each of its fields does, whatever the
order of the tests; each theorem says so for one section with any fields, read from a store or not.
-/
namespace LaunchConfig

namespace Duration

def Positive (duration : Duration) : Prop :=
  0 < duration.secs.toNat ∨ 0 < duration.nanos.toNat

theorem isZero_eq_false_iff {duration : Duration} :
    duration.isZero = false ↔ duration.Positive := by
  simp [isZero, Positive, Nat.pos_iff_ne_zero, ← UInt64.toNat_inj, ← UInt32.toNat_inj,
    or_iff_not_imp_left]

end Duration

namespace Validation

/-- A number from one to a limit. -/
def Within (limit number : Nat) : Prop :=
  1 ≤ number ∧ number ≤ limit

theorem ensure_eq_ok_iff {test : Bool} {complaint : Complaint} :
    ensure test complaint = .ok () ↔ test = true := by
  cases test <;> simp [ensure]

theorem notEmpty_eq_ok_iff {field value : String} :
    notEmpty field value = .ok () ↔ Text.NotBlank value := by
  rw [notEmpty, ensure_eq_ok_iff, Bool.not_eq_true', Text.isBlankText_eq_false_iff]

theorem port_eq_ok_iff {field : String} {value : UInt16} :
    port field value = .ok () ↔ 1 ≤ value.toNat := by
  rw [port, ensure_eq_ok_iff, decide_eq_true_eq, ne_eq, ← UInt16.toNat_inj, UInt16.toNat_zero,
    Nat.one_le_iff_ne_zero]

theorem count_eq_ok_iff {field : String} {limit value : UInt64} :
    count field limit value = .ok () ↔ Within limit.toNat value.toNat := by
  have positive : value ≠ 0 ↔ 1 ≤ value.toNat := by
    rw [ne_eq, ← UInt64.toNat_inj, UInt64.toNat_zero, Nat.one_le_iff_ne_zero]
  rw [count, andThen_eq_ok_iff, ensure_eq_ok_iff, ensure_eq_ok_iff, decide_eq_true_eq,
    decide_eq_true_eq, positive, UInt64.le_iff_toNat_le, Within]

theorem period_eq_ok_iff {field : String} {value : Duration} :
    period field value = .ok () ↔ value.Positive := by
  rw [period, ensure_eq_ok_iff, Bool.not_eq_true', Duration.isZero_eq_false_iff]

theorem image_eq_ok_iff {field value : String} :
    image field value = .ok () ↔ IsImageName value := by
  rw [image, ensure_eq_ok_iff, isImage_iff]

theorem region_eq_ok_iff {field value : String} :
    region field value = .ok () ↔ IsRegionName value := by
  rw [region, ensure_eq_ok_iff, isRegion_iff]

end Validation

open Text Validation

namespace Deployment

/-- A zone is named by its region and one more byte. -/
def IsZone (region zone : String) : Prop :=
  ∃ mark : String, zone = region ++ mark ∧ mark.utf8ByteSize = 1

theorem isZoneOf_iff {region zone : String} : isZoneOf region zone = true ↔ IsZone region zone := by
  unfold isZoneOf
  constructor
  · intro accepted
    split at accepted
    next mark rest => exact ⟨mark, dropStart?_eq_some_iff.mp rest, of_decide_eq_true accepted⟩
    next => cases accepted
  · rintro ⟨mark, rest, one⟩
    rw [dropStart?_eq_some_iff.mpr rest]
    exact decide_eq_true one

@[mk_iff] structure Valid (deployment : Deployment) : Prop where
  region : IsRegionName deployment.region
  ubuntuImage : IsImageName deployment.ubuntuImage
  nimbusImage : IsImageName deployment.nimbusImage
  keyName : NotBlank deployment.keyName
  securityGroup : NotBlank deployment.securityGroup
  controllerType : NotBlank deployment.controllerType
  workerType : NotBlank deployment.workerType
  privateKey : NotBlank deployment.privateKey
  placement : ∀ zone, deployment.placement = some zone → IsZone deployment.region zone
  placementGroup : ∀ group, deployment.placementGroup = some group → NotBlank group

theorem validate_eq_ok_iff {deployment : Deployment} :
    deployment.validate = .ok () ↔ deployment.Valid := by
  simp only [validate, andThen_eq_ok_iff, region_eq_ok_iff, image_eq_ok_iff, notEmpty_eq_ok_iff,
    valid_iff]
  -- A field that may be absent is tested only when it is there.
  cases deployment.placement <;> cases deployment.placementGroup <;>
    simp [andThen_eq_ok_iff, ensure_eq_ok_iff, isZoneOf_iff, notEmpty_eq_ok_iff]

end Deployment

namespace Controller

@[mk_iff] structure Valid (controller : Controller) : Prop where
  assignerThreads : Within 1024 controller.assignerThreads.toNat
  assignBatch : Within 1000000 controller.assignBatch.toNat
  commandBatch : Within 1000000 controller.commandBatch.toNat
  firstPort : 1 ≤ controller.firstPort.toNat
  balancingPeriod : controller.balancing = true → controller.balancingPeriod.Positive
  faultPeriod : controller.faultTolerance = true → controller.faultPeriod.Positive

theorem validate_eq_ok_iff {controller : Controller} :
    controller.validate = .ok () ↔ controller.Valid := by
  simp only [validate, andThen_eq_ok_iff, count_eq_ok_iff, port_eq_ok_iff, valid_iff]
  cases controller.balancing <;> cases controller.faultTolerance <;>
    simp [andThen_eq_ok_iff, period_eq_ok_iff, pure, Except.pure]

end Controller

namespace PartitionGrid

/-- Each axis has at least one partition, and at most as many as the space has cells. -/
@[mk_iff] structure Valid (scale : Nat) (grid : PartitionGrid) : Prop where
  x : Within scale grid.x.toNat
  y : Within scale grid.y.toNat
  z : Within scale grid.z.toNat

theorem validate_eq_ok_iff {field : String} {scale : UInt64} {grid : PartitionGrid} :
    grid.validate field scale = .ok () ↔ grid.Valid scale.toNat := by
  simp only [validate, andThen_eq_ok_iff, count_eq_ok_iff, valid_iff]

end PartitionGrid

namespace Simulation

@[mk_iff] structure Valid (simulation : Simulation) : Prop where
  scale : Within (2 ^ 20) simulation.scale.toNat
  partitions : simulation.partitions.Valid simulation.scale.toNat
  projection : simulation.projection.Valid simulation.scale.toNat
  frames : Within (2 ^ 20) simulation.frames.toNat
  threads : Within 1024 simulation.threads.toNat
  batch : Within simulation.iterations.toNat simulation.batch.toNat
  iterations : Within (2 ^ 20) simulation.iterations.toNat
  cpus : simulation.pinned = true → simulation.cpus.cpus ≠ []

-- Without iterations the limit of a batch is one, but then the number of iterations is refused.
theorem within_iterations_iff {simulation : Simulation} :
    Within (if simulation.iterations = 0 then 1 else simulation.iterations).toNat
        simulation.batch.toNat ∧ Within extent.toNat simulation.iterations.toNat ↔
      Within simulation.iterations.toNat simulation.batch.toNat ∧
        Within (2 ^ 20) simulation.iterations.toNat := by
  have limit : extent.toNat = 2 ^ 20 := rfl
  rw [limit]
  split
  next none_ => simp [none_, Within]
  next => exact Iff.rfl

theorem validate_eq_ok_iff {simulation : Simulation} :
    simulation.validate = .ok () ↔ simulation.Valid := by
  simp only [validate, andThen_eq_ok_iff, count_eq_ok_iff, PartitionGrid.validate_eq_ok_iff,
    ensure_eq_ok_iff, valid_iff]
  have cpus : (!simulation.pinned || !simulation.cpus.isEmpty) = true ↔
      (simulation.pinned = true → simulation.cpus.cpus ≠ []) := by
    cases simulation.pinned <;> simp [CpuSet.isEmpty]
  rw [cpus]
  constructor
  · rintro ⟨scale, partitions, projection, frames, threads, batch, iterations, cpus⟩
    obtain ⟨batch, iterations⟩ := within_iterations_iff.mp ⟨batch, iterations⟩
    exact ⟨scale, partitions, projection, frames, threads, batch, iterations, cpus⟩
  · rintro ⟨scale, partitions, projection, frames, threads, batch, iterations, cpus⟩
    obtain ⟨batch, iterations⟩ := within_iterations_iff.mpr ⟨batch, iterations⟩
    exact ⟨scale, partitions, projection, frames, threads, batch, iterations, cpus⟩

end Simulation

namespace LogFiles

/-- The names of the files. -/
def names (logs : LogFiles) : List String :=
  logs.files.map Prod.snd

@[mk_iff] structure Valid (logs : LogFiles) : Prop where
  outputPath : NotBlank logs.outputPath
  names : ∀ name ∈ logs.names, NotBlank name ∧ '/' ∉ name.toList

theorem fileName_eq_ok_iff {field name : String} :
    fileName field name = .ok () ↔ NotBlank name ∧ '/' ∉ name.toList := by
  simp [fileName, andThen_eq_ok_iff, notEmpty_eq_ok_iff, ensure_eq_ok_iff, Path.separator]

theorem validate_eq_ok_iff {logs : LogFiles} : logs.validate = .ok () ↔ logs.Valid := by
  simp only [validate, andThen_eq_ok_iff, notEmpty_eq_ok_iff, forM_eq_ok_iff,
    fileName_eq_ok_iff, valid_iff, names, List.forall_mem_map]

end LogFiles

namespace Build

/-- A path that is seen from a root. -/
def IsRelative (path : String) : Prop :=
  NotBlank path ∧ path.toList.head? ≠ some '/' ∧ path.toList.head? ≠ some '~'

def IsLibrary (name : String) : Prop :=
  ∃ stem : String, name = stem ++ ".so"

theorem relativePath_eq_ok_iff {field path : String} :
    relativePath field path = .ok () ↔ IsRelative path := by
  simp [relativePath, andThen_eq_ok_iff, notEmpty_eq_ok_iff, ensure_eq_ok_iff, IsRelative]

theorem library_eq_ok_iff {field name : String} : library field name = .ok () ↔ IsLibrary name := by
  rw [library, ensure_eq_ok_iff, List.isSuffixOf_iff_suffix,
    show ['.', 's', 'o'] = ".so".toList from rfl]
  constructor
  · rintro ⟨stem, whole⟩
    refine ⟨String.ofList stem, String.toList_injective ?_⟩
    rw [String.toList_append, String.toList_ofList]
    exact whole.symm
  · rintro ⟨stem, rfl⟩
    exact ⟨stem.toList, String.toList_append.symm⟩

@[mk_iff] structure Valid (build : Build) : Prop where
  sourceRoot : NotBlank build.sourceRoot
  instanceRoot : NotBlank build.instanceRoot
  applicationPath : IsRelative build.applicationPath
  schedulerPath : IsRelative build.schedulerPath
  workerPath : IsRelative build.workerPath
  nimbusLibrary : IsLibrary build.nimbusLibrary
  applicationLibrary : IsLibrary build.applicationLibrary
  schedulerBinary : NotBlank build.schedulerBinary
  workerBinary : NotBlank build.workerBinary

theorem validate_eq_ok_iff {build : Build} : build.validate = .ok () ↔ build.Valid := by
  simp only [validate, andThen_eq_ok_iff, notEmpty_eq_ok_iff, relativePath_eq_ok_iff,
    library_eq_ok_iff, valid_iff]

end Build

namespace Cluster

@[mk_iff] structure Valid (cluster : Cluster) : Prop where
  deployment : cluster.deployment.Valid
  controller : cluster.controller.Valid
  simulation : cluster.simulation.Valid
  logFiles : cluster.logFiles.Valid
  build : cluster.build.Valid

theorem validate_eq_ok_iff {cluster : Cluster} : cluster.validate = .ok () ↔ cluster.Valid := by
  simp only [validate, andThen_eq_ok_iff, Deployment.validate_eq_ok_iff,
    Controller.validate_eq_ok_iff, Simulation.validate_eq_ok_iff, LogFiles.validate_eq_ok_iff,
    Build.validate_eq_ok_iff, valid_iff]

end Cluster

end LaunchConfig
