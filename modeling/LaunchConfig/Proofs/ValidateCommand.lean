import LaunchConfig.Proofs.Dump
import LaunchConfig.Proofs.LaunchableStacks

/-!
The command that validates. It reads the sections of a store and checks their rules; what it answers
depends on the values under the keys alone. The stacks of the profiles are among the stores that it
accepts.
-/
namespace LaunchConfig

namespace CommandLine

theorem validationText_eq_ok_iff {store : Store} {text : String} :
    validationText store = .ok text ↔ ∃ cluster, Cluster.ofStore store = .ok cluster ∧
      cluster.Valid ∧ validText store cluster = text := by
  simp only [validationText, readSections, bind_eq_ok_iff, Invocation.within_eq_ok_iff,
    mapError_eq_ok_iff, pure, Except.pure, Except.ok.injEq]
  refine exists_congr fun cluster => and_congr_right fun _ => ?_
  rw [← Cluster.validate_eq_ok_iff]
  exact ⟨fun ⟨_, valid⟩ => valid, fun valid => ⟨(), valid⟩⟩

namespace Invocation

/-- Validation accepts the stores that obey the rules, and no others. -/
theorem validate_iff_launchable (invocation : Invocation) (surroundings : Surroundings)
    (store : Store) (validates : invocation.command = .validate)
    (made : invocation.store surroundings = .ok store) :
    (∃ text, invocation.execute surroundings = .ok text) ↔ store.Launchable := by
  obtain ⟨files, overrides, -, -, success⟩ := store_eq_ok_iff.mp made
  have sound := Store.sound_of_built (Blueprint.build_eq_ok_iff.mp success)
  have answers : invocation.execute surroundings = validationText store := by
    rw [execute, validates]
    simp only [made, ok_bind, answer]
  simp only [answers, validationText_eq_ok_iff]
  constructor
  · rintro ⟨_, cluster, read, valid, -⟩
    exact (Cluster.launchable_iff_valid sound read).mpr valid
  · intro launchable
    obtain ⟨cluster, read⟩ := Cluster.exists_of_launchable sound launchable
    exact ⟨_, cluster, read, (Cluster.launchable_iff_valid sound read).mp launchable, rfl⟩

theorem validate_iff_launchable_california : ∃ store text,
    (Invocation.mk .validate ["us-west-1"] [] false .warn .compact).store
      ⟨fun _ => .error .missing, []⟩ = .ok store ∧ store.Launchable ∧
    (Invocation.mk .validate ["us-west-1"] [] false .warn .compact).execute
      ⟨fun _ => .error .missing, []⟩ = .ok text := by
  have known : ∀ name ∈ ["us-west-1"], name ∈ Registry.standard.names := by decide
  obtain ⟨store, success⟩ := Blueprint.exists_build_stack ["us-west-1"] known
  have made := store_stack success .validate .warn .compact ⟨fun _ => .error .missing, []⟩
  have launchable := Blueprint.launchable_stack success known
  obtain ⟨text, answered⟩ := (validate_iff_launchable _ _ store rfl made).mpr launchable
  exact ⟨store, text, made, launchable, answered⟩

end Invocation

end CommandLine

end LaunchConfig
