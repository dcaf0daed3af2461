import LaunchConfig.Proofs.JsonText
import LaunchConfig.Proofs.SectionJson

/-!
The JSON text of a cluster, read back. The form of a cluster nests four levels deep and holds no
integer of more than 64 bits, so its text is understood as the form, and the form as the cluster.
-/
namespace LaunchConfig

open Json (Fits)

theorem PartitionGrid.fits (grid : PartitionGrid) (level : Nat) : Fits (level + 1) grid.toJson := by
  simp [toJson]

theorem CpuSet.fits (set : CpuSet) (level : Nat) : Fits (level + 2) set.toJson := by
  simp [toJson]

theorem Simulation.fits (simulation : Simulation) (level : Nat) :
    Fits (level + 3) simulation.toJson := by
  simp [toJson, PartitionGrid.fits, CpuSet.fits]

theorem Duration.fits (duration : Duration) (level : Nat) : Fits (level + 1) duration.toJson := by
  simp [toJson]

theorem Deployment.fits (deployment : Deployment) (level : Nat) :
    Fits (level + 1) deployment.toJson := by
  have optional : ∀ held, Fits level (optionalText held) := by
    rintro (_ | held) <;> simp [optionalText]
  simp [toJson, optional]

theorem Deactivation.fits (flags : Deactivation) (level : Nat) : Fits (level + 1) flags.toJson := by
  simp [toJson]

theorem Controller.fits (controller : Controller) (level : Nat) :
    Fits (level + 2) controller.toJson := by
  simp [toJson, Deactivation.fits, Duration.fits]

theorem LogFiles.fits (logs : LogFiles) (level : Nat) : Fits (level + 1) logs.toJson := by
  simp [toJson]

theorem Build.fits (build : Build) (level : Nat) : Fits (level + 1) build.toJson := by
  simp [toJson]

theorem Cluster.fits (cluster : Cluster) (level : Nat) : Fits (level + 4) cluster.toJson := by
  simp [toJson, Deployment.fits, Controller.fits, Simulation.fits, LogFiles.fits, Build.fits]

/-- The text of every cluster is understood and gives the cluster again, with the same verdict. -/
theorem Cluster.ofJson?_jsonText (cluster : Cluster) : ∃ json other,
    Json.parse? cluster.jsonText = some json ∧ ofJson? json = some other ∧ other = cluster ∧
      other.validate = cluster.validate :=
  -- The form takes four of the levels that the reader has.
  ⟨cluster.toJson, cluster, Json.parse?_write (cluster.fits 123) .indented 0,
    cluster.ofJson?_toJson, rfl, rfl⟩

end LaunchConfig
