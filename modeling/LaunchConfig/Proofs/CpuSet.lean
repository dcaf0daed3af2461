import LaunchConfig.Proofs.CpuList
import LaunchConfig.Proofs.SectionJson
import LaunchConfig.Proofs.SectionOutcome
import LaunchConfig.Proofs.Validation

/-!
Where sets of processors come from. A set that is understood from its text has the numbers of the
text in order, each once and none too large. The JSON form of a section brings its numbers along,
and the rules of the section ask only whether there are any.
-/
namespace LaunchConfig

namespace CpuSet

/-- The numbers are those that the text lists: in order, each once, and none too large. -/
structure Exact (set : CpuSet) : Prop where
  ascending : set.cpus.Pairwise (· < ·)
  bounded : ∀ number ∈ set.cpus, number.toNat ≤ 4095
  listed : ∃ other, parse set.spec = .ok other ∧ other.cpus = set.cpus

theorem exact_of_parse {text : String} {set : CpuSet} (parsed : parse text = .ok set) :
    set.Exact := by
  refine ⟨cpus_ascending parsed, cpus_le parsed, set, ?_, rfl⟩
  rw [spec_of_parse parsed]
  exact parsed

-- A text is understood in one way only, so there is just one exact set for it.
theorem exact_iff {set : CpuSet} : set.Exact ↔ parse set.spec = .ok set := by
  constructor
  · rintro ⟨-, -, other, parsed, same⟩
    have named := spec_of_parse parsed
    obtain ⟨spec, cpus⟩ := other
    obtain ⟨spec', cpus'⟩ := set
    cases named
    cases same
    exact parsed
  · exact exact_of_parse

end CpuSet

namespace Simulation

/-- The smallest simulation that keeps the rules, with the given processors. -/
def smallest (pinned : Bool) (cpus : CpuSet) : Simulation where
  scale := 1
  partitions := ⟨1, 1, 1⟩
  projection := ⟨1, 1, 1⟩
  frames := 1
  threads := 1
  batch := 1
  iterations := 1
  skipsProjection := false
  writesPerPart := false
  pinned := pinned
  cpus := cpus

theorem smallest_valid {pinned : Bool} {set : CpuSet} (listed : pinned = true → set.cpus ≠ []) :
    (smallest pinned set).validate = .ok () := by
  apply validate_eq_ok_iff.mpr
  refine ⟨?_, ?_, ?_, ?_, ?_, ?_, ?_, listed⟩
  all_goals simp [smallest, PartitionGrid.valid_iff, Validation.Within]

/-- A section that is read from a store has the processors that its text lists. A section that is
read from JSON and keeps the rules may have any numbers beside any text, as long as pinned workers
have some; the exact ones among these sets are those that the text would have given. -/
theorem cpus_of_sections (store : Store) (pinned : Bool) (set : CpuSet) :
    (∀ simulation, ofStore store = .ok simulation → simulation.cpus.Exact) ∧
    ((∃ json simulation, ofJson? json = some simulation ∧
      simulation.validate = .ok () ∧ simulation.pinned = pinned ∧ simulation.cpus = set) ↔
        (pinned = true → set.cpus ≠ [])) ∧
    (set.Exact ↔ CpuSet.parse set.spec = .ok set) := by
  refine ⟨?_, ⟨?_, ?_⟩, CpuSet.exact_iff⟩
  · intro simulation read
    exact CpuSet.exact_iff.mpr (ofStore_eq_ok_iff.mp read).2
  · rintro ⟨json, simulation, -, valid, rfl, rfl⟩
    exact (validate_eq_ok_iff.mp valid).cpus
  · intro listed
    exact ⟨_, smallest pinned set, ofJson?_toJson _, smallest_valid listed, rfl, rfl⟩

theorem cpus_of_sections_oregon : ∃ store simulation,
    (Blueprint.stack []).build = .ok store ∧ ofStore store = .ok simulation ∧
    simulation.cpus.Exact ∧
    ∃ json other, ofJson? json = some other ∧ other.validate = .ok () ∧ other.pinned = true ∧
      other.cpus = ⟨"0-3", [2, 1]⟩ := by
  obtain ⟨store, cluster, success, read⟩ := Blueprint.exists_cluster_stack [] (by decide)
  obtain ⟨given, parsed⟩ := Cluster.ofStore_eq_ok_iff.mp read
  have own : store.Gives cluster.simulation.readings := by
    simp only [Cluster.readings, Store.gives_append] at given
    exact given.1.1.2
  have reads := ofStore_eq_ok_iff.mpr ⟨own, parsed⟩
  obtain ⟨stored, passes, -⟩ := cpus_of_sections store true ⟨"0-3", [2, 1]⟩
  exact ⟨store, cluster.simulation, success, reads, stored _ reads, passes.mpr (by decide)⟩

/-- Numbers in any order, repeated and beyond the highest processor, beside a text that is no list,
pass as a section that keeps the rules. -/
theorem not_exact_of_json : ∃ simulation,
    ofJson? (smallest false ⟨"zz", [7, 7, 3, 18446744073709551615]⟩).toJson = some simulation ∧
    simulation.validate = .ok () ∧ ¬ simulation.cpus.cpus.Pairwise (· < ·) ∧
    (∃ number ∈ simulation.cpus.cpus, 4095 < number.toNat) ∧
    ∀ other, CpuSet.parse simulation.cpus.spec ≠ .ok other := by
  refine ⟨_, ofJson?_toJson _, smallest_valid (by decide), by decide, by decide, ?_⟩
  intro other parsed
  cases parsed

end Simulation

end LaunchConfig
