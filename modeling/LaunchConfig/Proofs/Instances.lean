import LaunchConfig.Proofs.SectionOutcome

/-!
Counting the instances of a built store. The store adds two integers with a sign and gives up on a
sum that is too large; the section on machines adds two numbers without a sign and would drop the
carry. Both find the same number, because building has looked at the sum before.
-/
namespace LaunchConfig

theorem Deployment.toNat_instances {deployment : Deployment}
    (small : deployment.controllers.toNat + deployment.workers.toNat < UInt64.size) :
    deployment.instances.toNat = deployment.controllers.toNat + deployment.workers.toNat := by
  rw [instances, UInt64.toNat_add]
  exact Nat.mod_eq_of_lt small

namespace Store.Sound

variable {store : Store} (sound : store.Sound)
include sound

/-- The two numbers of the section are those that the store adds up. -/
theorem counts_deployment {deployment : Deployment}
    (read : Deployment.ofStore store = .ok deployment) :
    ∃ controllers workers : Int64, store.value "CONTROLLER_NUM" = .ok (.integer controllers) ∧
      store.value "WORKER_NUM" = .ok (.integer workers) ∧
      controllers.toInt = deployment.controllers.toNat ∧ workers.toInt = deployment.workers.toNat ∧
      controllers.toInt + workers.toInt < 2 ^ 63 ∧ store.value "INSTANCE_NUM" =
        .ok (.integer (Int64.ofInt (controllers.toInt + workers.toInt))) := by
  have given := Deployment.ofStore_eq_ok_iff.mp read
  have first : Reading.From store ⟨.u64, "CONTROLLER_NUM", deployment.controllers⟩ :=
    given _ (by simp [Deployment.readings])
  have second : Reading.From store ⟨.u64, "WORKER_NUM", deployment.workers⟩ :=
    given _ (by simp [Deployment.readings])
  obtain ⟨controllers, stored, same⟩ := get_u64_eq_ok_iff.mp first
  obtain ⟨workers, stored', same'⟩ := get_u64_eq_ok_iff.mp second
  obtain ⟨_, _, -, -, held, held', small, computed⟩ := sound.instanceNum
  cases (value_of_stored held).symm.trans stored
  cases (value_of_stored held').symm.trans stored'
  exact ⟨controllers, workers, stored, stored', same, same', small, computed⟩

/-- No carry is lost, and what the store computes is what the section adds up. -/
theorem instances_computed {deployment : Deployment}
    (read : Deployment.ofStore store = .ok deployment) :
    deployment.controllers.toNat + deployment.workers.toNat < 2 ^ 63 ∧
      store.Counts "INSTANCE_NUM" deployment.instances.toNat := by
  obtain ⟨controllers, workers, -, -, first, second, small, computed⟩ :=
    sound.counts_deployment read
  have fits : deployment.controllers.toNat + deployment.workers.toNat < 2 ^ 63 := by omega
  have narrow : (2 : Nat) ^ 63 < UInt64.size := by decide
  refine ⟨fits, _, computed, ?_⟩
  rw [Deployment.toNat_instances (Nat.lt_trans fits narrow),
    Int64.toInt_ofInt_of_le (by omega) small]
  omega

end Store.Sound

namespace Blueprint

/-- A number of instances that is declared counts only if it is the number that there are. -/
theorem Built.instances_declared {blueprint : Blueprint} {store : Store}
    (built : blueprint.Built store) {total : Nat} (counted : store.Counts "INSTANCE_NUM" total)
    {declared : Value} (final : blueprint.final? "INSTANCE_NUM" = some declared) :
    ∃ n : Int64, declared = .integer n ∧ n.toInt = total := by
  obtain ⟨n, computed, same⟩ := counted
  have read : store.value Derivation.instanceNum.key = .ok (.integer n) := computed
  have fine := built.agrees read
  exact ⟨n, agrees_of_not_refused built.conforms fine declared final, same⟩

/-- However the instances of a built store are counted, there is one number of them: the sum of the
controllers and the workers, which no way of adding them up loses anything of. -/
theorem instances_of_build (blueprint : Blueprint) (store : Store)
    (success : blueprint.build = .ok store) :
    ∃ (deployment : Deployment) (controllers workers : Int64),
      Deployment.ofStore store = .ok deployment ∧
      store.value "CONTROLLER_NUM" = .ok (.integer controllers) ∧
      store.value "WORKER_NUM" = .ok (.integer workers) ∧
      deployment.controllers.toNat + deployment.workers.toNat < UInt64.size ∧
      (deployment.instances.toNat : Int) = controllers.toInt + workers.toInt ∧
      deployment.instances.toNat ≤ Numeral.maxSigned ∧
      store.total = .ok deployment.instances ∧
      store.get .u64 "INSTANCE_NUM" = .ok deployment.instances ∧
      ∀ declared, blueprint.final? "INSTANCE_NUM" = some declared →
        ∃ n : Int64, declared = .integer n ∧ n.toInt = deployment.instances.toNat := by
  have built := build_eq_ok_iff.mp success
  have sound := Store.sound_of_built built
  obtain ⟨deployment, read⟩ := sound.exists_deployment
  obtain ⟨controllers, workers, stored, stored', first, second, -⟩ := sound.counts_deployment read
  obtain ⟨small, counted⟩ := sound.instances_computed read
  have narrow : deployment.controllers.toNat + deployment.workers.toNat < UInt64.size :=
    Nat.lt_trans small (by decide)
  have sum := Deployment.toNat_instances narrow
  have got := Store.get_u64_eq_ok_iff.mpr counted
  refine ⟨deployment, controllers, workers, read, stored, stored', narrow, by omega, ?_, got, got,
    fun declared => built.instances_declared counted⟩
  rw [sum]
  exact Numeral.le_maxSigned_iff.mpr small

/-- Controllers and workers, and how many they are together. -/
def crew : Declaration :=
  ⟨[("CONTROLLER_NUM", .integer 2), ("WORKER_NUM", .integer 3), ("INSTANCE_NUM", .integer 5)]⟩

theorem exists_build_crew :
    ∃ store, ((stack ["us-west-1"]).overlay crew).build = .ok store := by
  obtain ⟨before, success⟩ := exists_build_stack ["us-west-1"] (by decide)
  have conforms : crew.Conforms := by
    apply Declaration.conforms_of_assignments
    simp only [crew, List.forall_mem_cons]
    refine ⟨?_, ?_, ?_, by simp⟩
    all_goals
      intro spec listed
      cases listed
      decide
  have ready := (build_eq_ok_iff.mp success).ready_overlay conforms
  obtain ⟨total, sum, -⟩ := ready.total
  obtain ⟨path, joined, -⟩ := ready.path
  have five : total = 5 := by
    obtain ⟨controllers, workers, assigned, assigned', rfl⟩ := sum
    rw [final?_overlay] at assigned assigned'
    cases assigned
    cases assigned'
    decide
  subst five
  have declared : ((stack ["us-west-1"]).overlay crew).final? Derivation.instanceNum.key =
      some (.integer 5) := by
    rw [final?_overlay]
    rfl
  refine ⟨_, build_eq_ok_iff.mpr (built_finished ready sum (by decide) ?_ joined ?_)⟩
  · apply not_refused_of_agrees declared
    intro spec listed
    cases listed
    decide
  · -- Nobody declares the path of the key file.
    have undeclared : ((stack ["us-west-1"]).overlay crew).final? Derivation.privateKey.key =
        none := by
      rw [final?_overlay, final?_derivation_of_fitting (stack_fitting _)]
      rfl
    rintro fault (⟨-, assigned, -⟩ | ⟨-, assigned, -, -⟩) <;>
      cases undeclared.symm.trans assigned

theorem instances_of_crew : ∃ store deployment,
    ((stack ["us-west-1"]).overlay crew).build = .ok store ∧
    Deployment.ofStore store = .ok deployment ∧ deployment.instances = 5 ∧
    store.total = .ok 5 := by
  obtain ⟨store, success⟩ := exists_build_crew
  obtain ⟨deployment, controllers, workers, read, -, -, -, -, -, total, -, declared⟩ :=
    instances_of_build ((stack ["us-west-1"]).overlay crew) store success
  obtain ⟨n, same, counted⟩ := declared (.integer 5) (by rw [final?_overlay]; rfl)
  cases same
  have five : deployment.instances = 5 := UInt64.toNat_inj.mp (Int.ofNat_inj.mp counted.symm)
  exact ⟨store, deployment, success, read, five, five ▸ total⟩

end Blueprint

end LaunchConfig
