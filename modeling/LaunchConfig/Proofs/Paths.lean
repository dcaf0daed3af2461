import LaunchConfig.Proofs.Validation

/-!
Where the paths of the section on binaries lead. A directory is named relative to its root, and this
is tested, so it lies under the root. The name of a file is not tested in this way: an absolute name
leads wherever it says.
-/
namespace LaunchConfig

namespace Path

/-- The text of a path begins with that of a root. -/
def Under (root path : String) : Prop :=
  root.toList <+: path.toList

instance (root path : String) : Decidable (Under root path) :=
  inferInstanceAs (Decidable (root.toList <+: path.toList))

theorem Under.trans {root directory path : String} (first : Under root directory)
    (second : Under directory path) : Under root path :=
  List.IsPrefix.trans first second

theorem under_join_of_relative {path : String} (relative : isAbsolute path.toList = false)
    (directory : String) : Under directory (join directory path) := by
  rw [Under, toList_join_of_relative relative, List.append_assoc]
  exact List.prefix_append _ _

/-- A path below a directory keeps to a root of it, unless it is absolute and leads elsewhere. -/
theorem under_join_iff {root directory : String} (inside : Under root directory) (path : String) :
    Under root (join directory path) ↔ (isAbsolute path.toList = true → Under root path) := by
  by_cases absolute : isAbsolute path.toList = true
  · rw [join_of_absolute absolute]
    exact ⟨fun under _ => under, fun under => under absolute⟩
  · have relative := Bool.eq_false_iff.mpr absolute
    exact ⟨fun _ absolute' => absurd absolute' absolute,
      fun _ => inside.trans (under_join_of_relative relative directory)⟩

end Path

namespace Build

open LaunchConfig.Path

/-- Every path of the section begins with its root, and the installed library stands beside the
worker that loads it. -/
structure Rooted (build : Build) : Prop where
  sourceApplicationDir : Under build.sourceRoot build.sourceApplicationDir
  sourceApplicationLibrary : Under build.sourceRoot build.sourceApplicationLibrary
  schedulerDir : Under build.instanceRoot build.schedulerDir
  workerDir : Under build.instanceRoot build.workerDir
  installedScheduler : Under build.instanceRoot build.installedScheduler
  installedWorker : Under build.instanceRoot build.installedWorker
  installedApplicationLibrary : Under build.instanceRoot build.installedApplicationLibrary
  besideWorker : Under build.workerDir build.installedApplicationLibrary

/-- A file that has an absolute name is called where it belongs. -/
structure Anchored (build : Build) : Prop where
  applicationLibrary : isAbsolute build.applicationLibrary.toList = true →
    Under build.sourceRoot build.applicationLibrary ∧ Under build.workerDir build.applicationLibrary
  schedulerBinary : isAbsolute build.schedulerBinary.toList = true →
    Under build.instanceRoot build.schedulerBinary
  workerBinary : isAbsolute build.workerBinary.toList = true →
    Under build.instanceRoot build.workerBinary

theorem IsRelative.not_absolute {path : String} (relative : IsRelative path) :
    isAbsolute path.toList = false :=
  decide_eq_false relative.2.1

theorem Valid.directories {build : Build} (valid : build.Valid) :
    Under build.sourceRoot build.sourceApplicationDir ∧
    Under build.instanceRoot build.schedulerDir ∧ Under build.instanceRoot build.workerDir :=
  ⟨under_join_of_relative valid.applicationPath.not_absolute _,
    under_join_of_relative valid.schedulerPath.not_absolute _,
    under_join_of_relative valid.workerPath.not_absolute _⟩

theorem Valid.rooted_iff {build : Build} (valid : build.Valid) : build.Rooted ↔ build.Anchored := by
  obtain ⟨application, scheduler, worker⟩ := valid.directories
  have own : Under build.workerDir build.workerDir := List.prefix_refl _
  constructor
  · intro rooted
    refine ⟨fun absolute => ⟨?_, ?_⟩, ?_, ?_⟩
    · exact (under_join_iff application _).mp rooted.sourceApplicationLibrary absolute
    · exact (under_join_iff own _).mp rooted.besideWorker absolute
    · exact (under_join_iff scheduler _).mp rooted.installedScheduler
    · exact (under_join_iff worker _).mp rooted.installedWorker
  · intro anchored
    have beside : Under build.workerDir build.installedApplicationLibrary :=
      (under_join_iff own _).mpr fun absolute => (anchored.applicationLibrary absolute).2
    exact {
      sourceApplicationDir := application
      sourceApplicationLibrary := (under_join_iff application _).mpr fun absolute =>
        (anchored.applicationLibrary absolute).1
      schedulerDir := scheduler
      workerDir := worker
      installedScheduler := (under_join_iff scheduler _).mpr anchored.schedulerBinary
      installedWorker := (under_join_iff worker _).mpr anchored.workerBinary
      installedApplicationLibrary := worker.trans beside
      besideWorker := beside }

theorem notBlank_of_absolute {path : String} (absolute : isAbsolute path.toList = true) :
    Text.NotBlank path := by
  refine ⟨separator, List.mem_of_mem_head? ?_, by decide⟩
  exact of_decide_eq_true absolute

/-- Where the rules of the section hold, the three directories lie under their roots. The files lie
there too exactly when none of them has an absolute name that leads elsewhere, and no rule forbids
such a name: it is accepted for each of them, and then it is the whole path. -/
theorem paths_of_valid (build : Build) (accepted : build.validate = .ok ()) :
    (Under build.sourceRoot build.sourceApplicationDir ∧
      Under build.instanceRoot build.schedulerDir ∧ Under build.instanceRoot build.workerDir) ∧
    (build.Rooted ↔ build.Anchored) ∧
    ∀ name : String, isAbsolute name.toList = true →
      ({ build with schedulerBinary := name }.validate = .ok () ∧
        { build with schedulerBinary := name }.installedScheduler = name) ∧
      ({ build with workerBinary := name }.validate = .ok () ∧
        { build with workerBinary := name }.installedWorker = name) ∧
      (IsLibrary name → { build with applicationLibrary := name }.validate = .ok () ∧
        { build with applicationLibrary := name }.sourceApplicationLibrary = name ∧
        { build with applicationLibrary := name }.installedApplicationLibrary = name) := by
  have valid := validate_eq_ok_iff.mp accepted
  refine ⟨valid.directories, valid.rooted_iff, ?_⟩
  intro name absolute
  have visible := notBlank_of_absolute absolute
  refine ⟨⟨?_, join_of_absolute absolute _⟩, ⟨?_, join_of_absolute absolute _⟩, fun library =>
    ⟨?_, join_of_absolute absolute _, join_of_absolute absolute _⟩⟩
  · exact validate_eq_ok_iff.mpr { valid with schedulerBinary := visible }
  · exact validate_eq_ok_iff.mpr { valid with workerBinary := visible }
  · exact validate_eq_ok_iff.mpr { valid with applicationLibrary := library }

/-- The layout of the launch manifest. -/
def layout : Build where
  sourceRoot := "~/cloud/src/nimbus/"
  instanceRoot := "~/cloud/src/nimbus/"
  applicationPath := "application/water_multiple/Build/Release/"
  schedulerPath := "test/scheduler_v3/"
  workerPath := "test/water_multiple/"
  nimbusLibrary := "libnimbus.so"
  applicationLibrary := "libwater_app.so"
  schedulerBinary := "scheduler"
  workerBinary := "worker"

theorem paths_of_layout : layout.validate = .ok () ∧ layout.Rooted ∧
    isAbsolute "/opt/sim.so".toList = true ∧ IsLibrary "/opt/sim.so" ∧
    { layout with applicationLibrary := "/opt/sim.so" }.validate = .ok () ∧
    { layout with applicationLibrary := "/opt/sim.so" }.installedApplicationLibrary =
      "/opt/sim.so" := by
  have accepted : layout.validate = .ok () := by decide +kernel
  have library : IsLibrary "/opt/sim.so" := ⟨"/opt/sim", rfl⟩
  obtain ⟨-, rooted, diverted⟩ := paths_of_valid layout accepted
  obtain ⟨-, -, replaced⟩ := diverted "/opt/sim.so" (by decide)
  obtain ⟨accepted', -, installed⟩ := replaced library
  have anchored : layout.Anchored := ⟨by decide, by decide, by decide⟩
  exact ⟨accepted, rooted.mpr anchored, by decide, library, accepted', installed⟩

/-- Files with absolute names, which the rules accept, though none of them stands under a root. -/
theorem not_rooted_of_absolute :
    let diverted := { layout with
      applicationLibrary := "/opt/sim.so", schedulerBinary := "/bin/sh", workerBinary := "/bin/sh" }
    diverted.validate = .ok () ∧
    ¬ Under diverted.sourceRoot diverted.sourceApplicationLibrary ∧
    ¬ Under diverted.instanceRoot diverted.installedScheduler ∧
    ¬ Under diverted.instanceRoot diverted.installedWorker ∧
    ¬ Under diverted.instanceRoot diverted.installedApplicationLibrary ∧
    ¬ Under diverted.workerDir diverted.installedApplicationLibrary := by
  decide +kernel

end Build

end LaunchConfig
