import LaunchConfig.Proofs.SectionOutcome

/-!
The sections and the values of the schema determine each other. Every key of the schema is read but
for two, which the others tell: the directory of the key file stands before its name in the path,
and the number of all instances is a sum.
-/
namespace LaunchConfig

namespace Cluster

/-- The keys that the sections read. -/
def keys : List String :=
  (default : Cluster).readings.map Reading.key

theorem keys_readings (cluster : Cluster) : cluster.readings.map Reading.key = keys := rfl

theorem keys_listed : ∀ key ∈ keys, ∃ spec ∈ Schema.table, spec.key = key := by
  decide +kernel

theorem keys_cover : ∀ spec ∈ Schema.table,
    spec.key ∈ keys ∨ spec.key = "PRIVATE_KEY_DIR" ∨ spec.key = "INSTANCE_NUM" := by
  decide +kernel

theorem readings_faithful (cluster : Cluster) :
    ∀ reading ∈ cluster.readings, reading.reader.Faithful := by
  simp [readings, Deployment.readings, Controller.readings, Deactivation.readings,
    Simulation.readings, PartitionGrid.readings, LogFiles.readings, Build.readings, or_imp,
    forall_and, Reader.text_faithful, Reader.boolean_faithful, Reader.duration_faithful,
    Reader.optional_text_faithful, Reader.u64_faithful, Reader.u16_faithful]

end Cluster

namespace Store

variable {left right : Store} {cluster : Cluster}

section Alike

variable (first : left.Sound) (second : right.Sound)
include first second

theorem directory_eq (names : left.value "KEY_NAME" = right.value "KEY_NAME")
    (paths : left.value "PRIVATE_KEY" = right.value "PRIVATE_KEY") :
    left.value "PRIVATE_KEY_DIR" = right.value "PRIVATE_KEY_DIR" := by
  obtain ⟨directory, name, stored, named, path⟩ := first.privateKey
  obtain ⟨directory', name', stored', named', path'⟩ := second.privateKey
  rw [value_of_stored named, value_of_stored named'] at names
  rw [path, path'] at paths
  cases names
  have same : directory ++ name ++ ".pem" = directory' ++ name ++ ".pem" := by
    simpa using paths
  have shorter := String.append_left_inj _ |>.mp (String.append_left_inj _ |>.mp same)
  rw [value_of_stored stored, value_of_stored stored', shorter]

theorem instances_eq (controllers : left.value "CONTROLLER_NUM" = right.value "CONTROLLER_NUM")
    (workers : left.value "WORKER_NUM" = right.value "WORKER_NUM") :
    left.value "INSTANCE_NUM" = right.value "INSTANCE_NUM" := by
  obtain ⟨_, _, -, -, stored, other, -, sum⟩ := first.instanceNum
  obtain ⟨_, _, -, -, stored', other', -, sum'⟩ := second.instanceNum
  rw [value_of_stored stored, value_of_stored stored'] at controllers
  rw [value_of_stored other, value_of_stored other'] at workers
  cases controllers
  cases workers
  rw [sum, sum']

/-- What two stores give alike, they hold alike under every key of the schema. -/
theorem values_eq_of_gives (given : left.Gives cluster.readings)
    (given' : right.Gives cluster.readings) :
    ∀ spec ∈ Schema.table, left.value spec.key = right.value spec.key := by
  have read : ∀ key ∈ Cluster.keys, left.value key = right.value key := by
    intro key member
    rw [← cluster.keys_readings] at member
    obtain ⟨reading, inside, rfl⟩ := List.mem_map.mp member
    exact Reading.value_eq (cluster.readings_faithful reading inside) (given reading inside)
      (given' reading inside)
  intro spec listed
  rcases Cluster.keys_cover spec listed with known | same | same
  · exact read spec.key known
  · rw [same]
    exact directory_eq first second (read _ (by decide +kernel)) (read _ (by decide +kernel))
  · rw [same]
    exact instances_eq first second (read _ (by decide +kernel)) (read _ (by decide +kernel))

end Alike

theorem gives_of_values_eq
    (same : ∀ spec ∈ Schema.table, left.value spec.key = right.value spec.key)
    (given : left.Gives cluster.readings) : right.Gives cluster.readings := by
  intro reading inside
  have member : reading.key ∈ Cluster.keys := by
    rw [← cluster.keys_readings]
    exact List.mem_map_of_mem inside
  obtain ⟨spec, listed, named⟩ := Cluster.keys_listed reading.key member
  exact (Reading.from_congr (named ▸ same spec listed)).mp (given reading inside)

end Store

namespace Blueprint

/-- Two built stores have the same sections when they hold the same under every key of the schema,
derived keys included, and only then. -/
theorem cluster_eq_iff (first second : Blueprint) (left right : Store) (cluster other : Cluster)
    (success : first.build = .ok left) (success' : second.build = .ok right)
    (read : Cluster.ofStore left = .ok cluster) (read' : Cluster.ofStore right = .ok other) :
    cluster = other ↔ ∀ spec ∈ Schema.table, left.value spec.key = right.value spec.key := by
  have sound := Store.sound_of_built (build_eq_ok_iff.mp success)
  have sound' := Store.sound_of_built (build_eq_ok_iff.mp success')
  obtain ⟨given, parsed⟩ := Cluster.ofStore_eq_ok_iff.mp read
  constructor
  · rintro rfl
    exact Store.values_eq_of_gives sound sound' given (Cluster.ofStore_eq_ok_iff.mp read').1
  · intro same
    have again := Cluster.ofStore_eq_ok_iff.mpr ⟨Store.gives_of_values_eq same given, parsed⟩
    exact Except.ok.inj (again.symm.trans read')

-- Two regions under one key are enough for the sections to differ.
theorem cluster_eq_iff_oregon : ∃ left right cluster other,
    (stack []).build = .ok left ∧ (stack ["us-west-1", "legacy-ami"]).build = .ok right ∧
    Cluster.ofStore left = .ok cluster ∧ Cluster.ofStore right = .ok other ∧
    left.value "EC2_LOCATION" = .ok (.text "us-west-2") ∧
    right.value "EC2_LOCATION" = .ok (.text "us-west-1") ∧ cluster ≠ other := by
  obtain ⟨left, cluster, success, read⟩ := exists_cluster_stack [] (by decide)
  obtain ⟨right, other, success', read'⟩ :=
    exists_cluster_stack ["us-west-1", "legacy-ami"] (by decide)
  have oregon : left.value "EC2_LOCATION" = .ok (.text "us-west-2") :=
    value_of_final? success _ (.text "us-west-2") (by decide +kernel) rfl
  have california : right.value "EC2_LOCATION" = .ok (.text "us-west-1") :=
    value_of_final? success' _ (.text "us-west-1") (by decide +kernel) rfl
  obtain ⟨spec, listed, named⟩ : ∃ spec ∈ Schema.table, spec.key = "EC2_LOCATION" := by
    decide +kernel
  refine ⟨left, right, cluster, other, success, success', read, read', oregon, california, ?_⟩
  intro same
  have values := (cluster_eq_iff _ _ left right cluster other success success' read read').mp same
  have equal := values spec listed
  rw [named, oregon, california] at equal
  simp at equal

end Blueprint

end LaunchConfig
