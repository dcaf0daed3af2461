import LaunchConfig.Proofs.Conforming
import LaunchConfig.Proofs.RawText
import LaunchConfig.Proofs.Reload

/-!
Overrides on a configuration that can be built. They assign fitting values only, so what may still
go wrong is between the keys, and a value that is overridden by its own text changes nothing.
-/
namespace LaunchConfig

theorem Declaration.conforms_of_overrides {start : String} {environment : List (String × String)}
    {overlay : Declaration} (accepted : ofOverrides start environment = .ok overlay) :
    overlay.Conforms := by
  apply conforms_of_assignments
  intro pair assigned spec listed
  obtain ⟨spec', raw, listed', -, parsed⟩ := mem_ofOverrides accepted assigned
  cases listed.symm.trans listed'
  have stores := KeySpec.stores_of_parseRaw parsed
  rwa [KeySpec.normalize_of_stores stores]

theorem CommandLine.Invocation.execute_get {invocation : Invocation} {surroundings : Surroundings}
    {store : Store} {key : String} {json : Bool} (gets : invocation.command = .get key json)
    (made : invocation.store surroundings = .ok store) :
    invocation.execute surroundings = answer (.get key json) store := by
  unfold execute
  simp only [gets, made, ok_bind]

namespace Blueprint

/-- Overrides that were accepted cannot break the schema. The number of instances may get too large,
or a value for a derived key may not be the computed one; nothing else fails, and without these the
build succeeds. -/
theorem outcome_of_overrides (blueprint : Blueprint) (store : Store) (start : String)
    (environment : List (String × String)) (overlay : Declaration)
    (success : blueprint.build = .ok store)
    (accepted : Declaration.ofOverrides start environment = .ok overlay) :
    (∀ order, (blueprint.overlay overlay).Enumeration order →
      (blueprint.overlay overlay).buildIn order = (blueprint.overlay overlay).build) ∧
    ∃ total path, (blueprint.overlay overlay).Total total ∧
      (blueprint.overlay overlay).KeyPath path ∧
      ((2 ^ 63 ≤ total ∧ (blueprint.overlay overlay).build =
          .error (.invalidValue "INSTANCE_NUM" .countOverflow)) ∨
        (total < 2 ^ 63 ∧ (blueprint.overlay overlay).Contradicted "INSTANCE_NUM"
          (.integer (Int64.ofInt total)) (blueprint.overlay overlay).build) ∨
        (total < 2 ^ 63 ∧
          (blueprint.overlay overlay).Agrees "INSTANCE_NUM" (.integer (Int64.ofInt total)) ∧
          (blueprint.overlay overlay).Contradicted "PRIVATE_KEY" (.text path)
            (blueprint.overlay overlay).build) ∨
        (total < 2 ^ 63 ∧
          (blueprint.overlay overlay).Agrees "INSTANCE_NUM" (.integer (Int64.ofInt total)) ∧
          (blueprint.overlay overlay).Agrees "PRIVATE_KEY" (.text path) ∧
          ∃ extended, (blueprint.overlay overlay).build = .ok extended)) := by
  have built := build_eq_ok_iff.mp success
  have conforms := Declaration.conforms_of_overrides accepted
  have ready := built.ready_overlay conforms
  constructor
  · exact fun order => ready.buildIn_eq_build
  · exact outcome_of_ready ready (built.conforms_overlay conforms) (outcome_build _)

theorem overflow_of_overrides : ∃ store overlay, (stack []).build = .ok store ∧
    Declaration.ofOverrides "NIMBUS_" [("NIMBUS_CONTROLLER_NUM", " 1 "), ("PATH", "/bin"),
      ("NIMBUS_WORKER_NUM", "9223372036854775807")] = .ok overlay ∧
    ((stack []).overlay overlay).build = .error (.invalidValue "INSTANCE_NUM" .countOverflow) := by
  obtain ⟨store, success⟩ := exists_build_stack [] (by decide)
  have accepted : Declaration.ofOverrides "NIMBUS_" [("NIMBUS_CONTROLLER_NUM", " 1 "),
      ("PATH", "/bin"), ("NIMBUS_WORKER_NUM", "9223372036854775807")] =
        .ok ⟨[("CONTROLLER_NUM", .integer 1), ("WORKER_NUM", .integer 9223372036854775807)]⟩ := by
    rfl
  refine ⟨store, _, success, accepted, ?_⟩
  obtain ⟨-, total, path, ⟨controllers, workers, assigned, assigned', rfl⟩, -, outcome⟩ :=
    outcome_of_overrides (stack []) store "NIMBUS_" _ _ success accepted
  rw [final?_overlay] at assigned assigned'
  cases assigned
  cases assigned'
  -- The sum of the two numbers is too large for all other outcomes.
  rcases outcome with ⟨-, overflow⟩ | ⟨small, -⟩ | ⟨small, -⟩ | ⟨small, -⟩
  · exact overflow
  all_goals exact absurd small (by decide)

/-- An overlay that says what the store says anyway gives the same store. -/
theorem Built.build_echo {blueprint : Blueprint} {store : Store} (built : blueprint.Built store)
    {overlay : Declaration}
    (echo : ∀ key value, overlay.value? key = some value → store.value key = .ok value) :
    (blueprint.overlay overlay).build = .ok store := by
  have sound := Store.sound_of_built built
  have conforms : overlay.Conforms := by
    intro key value spec last listed
    have stores := sound.stores_value (echo key value last) listed
    rwa [KeySpec.normalize_of_stores stores]
  have rebuilt := built.overlay_of_kept conforms fun derivation key _ => echo key
  have same : (blueprint.overlay overlay).Built store :=
    { rebuilt with
      entries := by
        intro key
        rw [← built.get?_settings_overlay_of_kept (echo key)]
        exact rebuilt.entries key
      profiles := built.profiles }
  exact build_eq_ok_iff.mpr same

/-- The text that `get` shows for a key of the schema is an override that says the same, but for
texts that begin or end in blanks and, where the key may be switched off, the words for that. -/
theorem override_of_get (blueprint : Blueprint) (store : Store) (spec : KeySpec)
    (success : blueprint.build = .ok store) (inTable : spec ∈ Schema.table) :
    ∃ value text, store.value spec.key = .ok value ∧
      CommandLine.answer (.get spec.key false) store = .ok text ∧
      (∀ (invocation : CommandLine.Invocation) surroundings,
        invocation.command = .get spec.key false → invocation.store surroundings = .ok store →
          invocation.execute surroundings = .ok text) ∧
      (spec.parseRaw text = .ok value ↔ ∀ held, value = .text held → Text.trim held = held ∧
        ¬ (spec.nullable = true ∧
          (Text.lowercase held = "none" ∨ Text.lowercase held = "null"))) ∧
      (spec.parseRaw text = .ok value → ∃ overlay snapshot,
        Declaration.ofOverrides "NIMBUS_" [("NIMBUS_" ++ spec.key, text)] = .ok overlay ∧
        (blueprint.overlay overlay).build = .ok store ∧ store.snapshot = .ok snapshot) := by
  have built := build_eq_ok_iff.mp success
  have sound := Store.sound_of_built built
  have listed := Schema.lookup?_eq_some_iff.mpr ⟨inTable, rfl⟩
  obtain ⟨value, read⟩ := sound.value_known (sound.mem_keys inTable)
  have stores := sound.stores_value read listed
  have shown : CommandLine.answer (.get spec.key false) store =
      .ok (CommandLine.valueText false value) := by
    rw [CommandLine.answer, read]
    rfl
  have words : ∀ held, spec.SwitchesOff held ↔ spec.nullable = true ∧
      (Text.lowercase held = "none" ∨ Text.lowercase held = "null") := by
    intro held
    simp [KeySpec.SwitchesOff, KeySpec.nullWords]
  refine ⟨value, _, read, shown, ?_, ?_, ?_⟩
  · intro invocation surroundings gets made
    rw [CommandLine.Invocation.execute_get gets made, shown]
  · simp only [KeySpec.parseRaw_valueText stores, words]
  · intro parsed
    obtain ⟨snapshot, taken, -⟩ := sound.exists_snapshot
    refine ⟨_, snapshot, Declaration.ofOverrides_single inTable parsed, ?_, taken⟩
    apply built.build_echo
    intro key held last
    rw [value?_single, Option.ite_none_right_eq_some] at last
    obtain ⟨rfl, same⟩ := last
    cases same
    exact read

theorem override_of_instanceNum : ∃ store overlay, (stack ["us-west-1"]).build = .ok store ∧
    CommandLine.answer (.get "INSTANCE_NUM" false) store = .ok "0" ∧
    Declaration.ofOverrides "NIMBUS_" [("NIMBUS_INSTANCE_NUM", "0")] = .ok overlay ∧
    ((stack ["us-west-1"]).overlay overlay).build = .ok store := by
  obtain ⟨store, success⟩ := exists_build_stack ["us-west-1"] (by decide)
  obtain ⟨spec, inTable, named⟩ : ∃ spec ∈ Schema.table, spec.key = "INSTANCE_NUM" := by decide
  obtain ⟨value, text, read, shown, -, parses, same⟩ :=
    override_of_get (stack ["us-west-1"]) store spec success inTable
  rw [named] at read shown same
  have total := instanceNum_stack success
  cases total.symm.trans read
  have zero : CommandLine.answer (.get "INSTANCE_NUM" false) store = .ok "0" := by
    rw [CommandLine.answer, total]
    rfl
  cases zero.symm.trans shown
  obtain ⟨overlay, -, accepted, rebuilt, -⟩ := same (parses.mpr (by simp))
  exact ⟨store, overlay, success, zero, accepted, rebuilt⟩

end Blueprint

end LaunchConfig
