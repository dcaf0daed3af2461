import LaunchConfig.Proofs.Sections
import LaunchConfig.Proofs.Standard

/-!
Reading the sections of a built store. The tests of the schema leave two errors to the sections: the
first port has 16 bits only, and the list of processors is a text that need not be understood.
-/
namespace LaunchConfig

namespace Store

/-- The first port is no port number. -/
def PortFault (store : Store) (fault : ConfigError) : Prop :=
  ∃ port : Int64, store.value "FIRST_PORT" = .ok (.integer port) ∧ 65535 < port.toInt ∧
    fault = .typeMismatch "FIRST_PORT" "u16"
      ("integer " ++ String.ofList (Numeral.decimal port.toInt) ++ " out of range")

/-- The list of processors is not understood. -/
def CpusFault (store : Store) (fault : ConfigError) : Prop :=
  ∃ words reason, store.value "WORKER_TASKSET" = .ok (.text words) ∧
    CpuSet.parse words = .error reason ∧ fault = .invalidValue "WORKER_TASKSET" reason

namespace Sound

open Reader

variable {store : Store} (sound : store.Sound) {fault : ConfigError}
include sound

theorem exists_deployment : ∃ deployment, Deployment.ofStore store = .ok deployment := by
  obtain ⟨_, _, _, _, key⟩ := sound.privateKey
  unfold Deployment.ofStore
  iterate 7 refine exists_bind_eq_ok (sound.exists_get rfl rfl (text_suits rfl rfl)) fun _ => ?_
  iterate 2
    refine exists_bind_eq_ok (sound.exists_get rfl rfl (optional_text_suits rfl)) fun _ => ?_
  refine exists_bind_eq_ok ⟨_, get_text_eq_ok_iff.mpr key⟩ fun _ => ?_
  iterate 2 refine exists_bind_eq_ok (sound.exists_get rfl rfl (u64_suits rfl rfl)) fun _ => ?_
  exact ⟨_, rfl⟩

theorem exists_deactivation : ∃ flags, Deactivation.ofStore store = .ok flags := by
  unfold Deactivation.ofStore
  iterate 6 refine exists_bind_eq_ok (sound.exists_get rfl rfl (boolean_suits rfl rfl)) fun _ => ?_
  exact ⟨_, rfl⟩

theorem controller_eq_error_iff : Controller.ofStore store = .error fault ↔
    store.PortFault fault := by
  obtain ⟨port, sign, stored⟩ := sound.stored_count "FIRST_PORT" rfl rfl rfl rfl
  have read := value_of_stored stored
  unfold Controller.ofStore
  iterate 3
    refine bind_eq_error_iff_of_first (sound.exists_get rfl rfl (u64_suits rfl rfl)) fun _ => ?_
  refine bind_eq_error_iff_of_first sound.exists_deactivation fun _ => ?_
  iterate 2
    refine bind_eq_error_iff_of_first (sound.exists_get rfl rfl (boolean_suits rfl rfl)) fun _ => ?_
  iterate 2
    refine bind_eq_error_iff_of_first (sound.exists_get rfl rfl (duration_suits rfl rfl))
      fun _ => ?_
  refine (bind_eq_error_iff_of_rest fun _ => ⟨_, rfl⟩).trans ?_
  rw [get_u16_eq_error_iff read sign]
  simp [PortFault, read]

theorem exists_grid {start : String} (known : start = "" ∨ start = "PROJ_") :
    ∃ grid, PartitionGrid.ofStore store start = .ok grid := by
  unfold PartitionGrid.ofStore
  rcases known with rfl | rfl
  all_goals
    iterate 3 refine exists_bind_eq_ok (sound.exists_get rfl rfl (u64_suits rfl rfl)) fun _ => ?_
    exact ⟨_, rfl⟩

theorem simulation_eq_error_iff : Simulation.ofStore store = .error fault ↔
    store.CpusFault fault := by
  obtain ⟨words, stored⟩ := sound.stored_text "WORKER_TASKSET" rfl rfl rfl rfl
  have read := value_of_stored stored
  unfold Simulation.ofStore
  rw [Simulation.cpusKey, get_text_eq_ok_iff.mpr read, ok_bind]
  refine bind_eq_error_iff_of_first (sound.exists_get rfl rfl (u64_suits rfl rfl)) fun _ => ?_
  refine bind_eq_error_iff_of_first (sound.exists_grid (Or.inl rfl)) fun _ => ?_
  refine bind_eq_error_iff_of_first (sound.exists_grid (Or.inr rfl)) fun _ => ?_
  iterate 4
    refine bind_eq_error_iff_of_first (sound.exists_get rfl rfl (u64_suits rfl rfl)) fun _ => ?_
  iterate 3
    refine bind_eq_error_iff_of_first (sound.exists_get rfl rfl (boolean_suits rfl rfl)) fun _ => ?_
  refine (bind_eq_error_iff_of_rest fun _ => ⟨_, rfl⟩).trans ?_
  rw [mapError_eq_error_iff]
  simp [CpusFault, read]

theorem exists_logFiles : ∃ logs, LogFiles.ofStore store = .ok logs := by
  unfold LogFiles.ofStore
  iterate 7 refine exists_bind_eq_ok (sound.exists_get rfl rfl (text_suits rfl rfl)) fun _ => ?_
  exact ⟨_, rfl⟩

theorem exists_build : ∃ build, Build.ofStore store = .ok build := by
  unfold Build.ofStore
  iterate 9 refine exists_bind_eq_ok (sound.exists_get rfl rfl (text_suits rfl rfl)) fun _ => ?_
  exact ⟨_, rfl⟩

/-- The port is read first, so the processors count only when it is a port number. -/
theorem cluster_eq_error_iff : Cluster.ofStore store = .error fault ↔
    store.PortFault fault ∨ (∀ other, ¬ store.PortFault other) ∧ store.CpusFault fault := by
  have fine : (∃ controller, Controller.ofStore store = .ok controller) ↔
      ∀ other, ¬ store.PortFault other := by
    simp only [← sound.controller_eq_error_iff]
    cases Controller.ofStore store <;> simp
  unfold Cluster.ofStore
  refine bind_eq_error_iff_of_first sound.exists_deployment fun _ => ?_
  rw [bind_eq_error_iff, sound.controller_eq_error_iff, ← fine, ← exists_and_right]
  refine or_congr_right (exists_congr fun _ => and_congr_right fun _ => ?_)
  refine (bind_eq_error_iff_of_rest fun _ => ?_).trans sound.simulation_eq_error_iff
  refine exists_bind_eq_ok sound.exists_logFiles fun _ => ?_
  exact exists_bind_eq_ok sound.exists_build fun _ => ⟨_, rfl⟩

end Sound

end Store

namespace Blueprint

section Stacks

variable {profiles : List String} {store : Store}
  (success : (stack profiles).build = .ok store) (fault : ConfigError)
include success

theorem not_portFault_stack : ¬ store.PortFault fault := by
  obtain ⟨_, member, read⟩ := exists_value_stack success "FIRST_PORT" rfl rfl
    [.integer 5800] (by decide +kernel) (by decide +kernel)
  obtain rfl := List.mem_singleton.mp member
  rintro ⟨_, held, wide, -⟩
  cases read.symm.trans held
  exact absurd wide (by decide)

theorem not_cpusFault_stack : ¬ store.CpusFault fault := by
  obtain ⟨_, member, read⟩ := exists_value_stack success "WORKER_TASKSET" rfl rfl
    [.text "0-3,8-11"] (by decide +kernel) (by decide +kernel)
  obtain rfl := List.mem_singleton.mp member
  rintro ⟨_, reason, held, bad, -⟩
  cases read.symm.trans held
  have fine : (CpuSet.parse "0-3,8-11").isOk := by decide +kernel
  simp [bad, Except.isOk, Except.toBool] at fine

end Stacks

/-- Of a built store, all sections can be read but for the port and the processors. -/
theorem sections_of_build (blueprint : Blueprint) (store : Store)
    (success : blueprint.build = .ok store) :
    (∃ deployment, Deployment.ofStore store = .ok deployment) ∧
    (∃ logs, LogFiles.ofStore store = .ok logs) ∧
    (∃ build, Build.ofStore store = .ok build) ∧
    ∀ fault,
      (Controller.ofStore store = .error fault ↔ store.PortFault fault) ∧
      (Simulation.ofStore store = .error fault ↔ store.CpusFault fault) ∧
      (Cluster.ofStore store = .error fault ↔ store.PortFault fault ∨
        (∀ other, ¬ store.PortFault other) ∧ store.CpusFault fault) := by
  have sound := Store.sound_of_built (build_eq_ok_iff.mp success)
  exact ⟨sound.exists_deployment, sound.exists_logFiles, sound.exists_build, fun fault =>
    ⟨sound.controller_eq_error_iff, sound.simulation_eq_error_iff, sound.cluster_eq_error_iff⟩⟩

-- With neither fault possible, the three other sections can be read as well.
theorem sections_of_california :
    ∃ store deployment controller simulation logs build cluster,
      (stack ["us-west-1", "physbam-layout"]).build = .ok store ∧
      Deployment.ofStore store = .ok deployment ∧ Controller.ofStore store = .ok controller ∧
      Simulation.ofStore store = .ok simulation ∧ LogFiles.ofStore store = .ok logs ∧
      Build.ofStore store = .ok build ∧ Cluster.ofStore store = .ok cluster := by
  obtain ⟨store, success⟩ := exists_build_stack ["us-west-1", "physbam-layout"] (by decide)
  obtain ⟨⟨deployment, readDeployment⟩, ⟨logs, readLogs⟩, ⟨build, readBuild⟩, faults⟩ :=
    sections_of_build _ store success
  have port := not_portFault_stack success
  have cpus := not_cpusFault_stack success
  obtain ⟨controller, readController⟩ := (ok_or_error (Controller.ofStore store)).resolve_right
    fun ⟨fault, failed⟩ => port fault ((faults fault).1.mp failed)
  obtain ⟨simulation, readSimulation⟩ := (ok_or_error (Simulation.ofStore store)).resolve_right
    fun ⟨fault, failed⟩ => cpus fault ((faults fault).2.1.mp failed)
  obtain ⟨cluster, read⟩ := (ok_or_error (Cluster.ofStore store)).resolve_right
    fun ⟨fault, failed⟩ => ((faults fault).2.2.mp failed).elim (port fault) fun other =>
      cpus fault other.2
  exact ⟨store, deployment, controller, simulation, logs, build, cluster, success, readDeployment,
    readController, readSimulation, readLogs, readBuild, read⟩

/-- The sections of every stack can be read. -/
theorem exists_cluster_stack (profiles : List String)
    (known : ∀ name ∈ profiles, name ∈ Registry.standard.names) :
    ∃ store cluster, (stack profiles).build = .ok store ∧ Cluster.ofStore store = .ok cluster := by
  obtain ⟨store, success⟩ := exists_build_stack profiles known
  have sound := Store.sound_of_built (build_eq_ok_iff.mp success)
  rcases ok_or_error (Cluster.ofStore store) with ⟨cluster, read⟩ | ⟨fault, failed⟩
  · exact ⟨store, cluster, success, read⟩
  · rcases sound.cluster_eq_error_iff.mp failed with port | ⟨-, cpus⟩
    · exact absurd port (not_portFault_stack success fault)
    · exact absurd cpus (not_cpusFault_stack success fault)

end Blueprint

end LaunchConfig
