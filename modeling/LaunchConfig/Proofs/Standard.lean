import LaunchConfig.Proofs.Conforming

/-!
The manifest and the profiles that come with the program. They assign stored keys of the schema
only, with values that fit, and the manifest leaves no key out; whatever profiles are selected, a
store can be built.
-/
namespace LaunchConfig

namespace KeySpec

instance (spec : KeySpec) : (value : Value) → Decidable (spec.Stores value)
  | .null => inferInstanceAs (Decidable (spec.nullable = true))
  | .boolean _ => inferInstanceAs (Decidable (spec.kind = .boolean))
  | .integer held => inferInstanceAs (Decidable (spec.kind = .count ∧ 0 ≤ held.toInt))
  | .text _ => inferInstanceAs (Decidable (spec.kind = .text))
  | .seconds _ => inferInstanceAs (Decidable (spec.kind = .duration))

end KeySpec

namespace Declaration

/-- Every assignment is to a stored key of the schema, and fits it. -/
def Fitting (declaration : Declaration) : Prop :=
  ∀ pair ∈ declaration.assignments, ∃ spec ∈ Schema.required, spec.key = pair.1 ∧
    spec.Stores (spec.normalize pair.2)

instance (declaration : Declaration) : Decidable declaration.Fitting :=
  inferInstanceAs (Decidable (∀ pair ∈ declaration.assignments, _))

/-- No instance is asked for. -/
def Idle (declaration : Declaration) : Prop :=
  ∀ pair ∈ declaration.assignments, pair.1 = "CONTROLLER_NUM" ∨ pair.1 = "WORKER_NUM" →
    pair.2 = .integer 0

instance (declaration : Declaration) : Decidable declaration.Idle :=
  inferInstanceAs (Decidable (∀ pair ∈ declaration.assignments, _))

theorem Fitting.conforms {declaration : Declaration} (fitting : declaration.Fitting) :
    declaration.Conforms := by
  apply conforms_of_assignments
  intro pair assigned spec listed
  obtain ⟨other, required, same, stores⟩ := fitting pair assigned
  have found := Schema.lookup?_eq_some_iff.mpr ⟨List.mem_of_mem_filter required, same⟩
  cases listed.symm.trans found
  exact stores

theorem manifest_fitting : manifest.Fitting := by decide +kernel

theorem manifest_idle : manifest.Idle := by decide +kernel

theorem manifest_complete : ∀ spec ∈ Schema.required,
    spec.key ∈ manifest.assignments.map Prod.fst := by
  decide +kernel

theorem standard_profiles : ∀ pair ∈ Registry.standard.profiles.pairs,
    pair.2.overrides.Fitting ∧ pair.2.overrides.Idle := by
  decide +kernel

end Declaration

namespace Blueprint

variable {blueprint : Blueprint}

theorem ready_of_fitting (known : blueprint.Known) (fitting : blueprint.sources.Fitting)
    (complete : ∀ spec ∈ Schema.required, spec.key ∈ blueprint.sources.assignments.map Prod.fst) :
    blueprint.Ready := by
  apply ready_of_conforms known fitting.conforms
  rintro key ⟨⟨spec, required, rfl⟩, absent⟩
  exact final?_eq_none_iff.mp absent (complete spec required)

theorem final?_derivation_of_fitting (fitting : blueprint.sources.Fitting) (derivation : Derivation) :
    blueprint.final? derivation.key = none := by
  rw [final?_eq_none_iff, List.mem_map]
  rintro ⟨pair, member, same⟩
  obtain ⟨spec, required, named, -⟩ := fitting pair member
  obtain ⟨inTable, plain⟩ := List.mem_filter.mp required
  have derived : Store.isDerived spec.key = true := by
    rw [named, same]
    cases derivation <;> rfl
  rw [← Schema.derived_eq_isDerived spec inTable] at derived
  simp [derived] at plain

theorem not_refused_of_fitting (fitting : blueprint.sources.Fitting) (derivation : Derivation)
    (computed : Value) (fault : ConfigError) : ¬ blueprint.Refused derivation computed fault := by
  have unassigned := final?_derivation_of_fitting fitting derivation
  rintro (⟨-, assigned, -⟩ | ⟨-, assigned, -, -⟩) <;> simp [unassigned] at assigned

/-- The manifest under some of the profiles that come with the program. -/
def stack (profiles : List String) : Blueprint :=
  { standard with profiles }

theorem stack_induction {property : String × Value → Prop}
    (manifest : ∀ pair ∈ Declaration.manifest.assignments, property pair)
    (chosen : ∀ profile ∈ Registry.standard.profiles.pairs,
      ∀ pair ∈ profile.2.overrides.assignments, property pair)
    (profiles : List String) : ∀ pair ∈ (stack profiles).sources.assignments, property pair := by
  intro pair assigned
  rcases mem_sources_iff.mp assigned with base | ⟨name, -, profile, found, override⟩ | ⟨_, none, _⟩
  · exact manifest pair base
  · exact chosen (name, profile) (KeyMap.mem_pairs_iff.mpr found) pair override
  · cases none

theorem stack_fitting (profiles : List String) : (stack profiles).sources.Fitting :=
  stack_induction Declaration.manifest_fitting
    (fun profile listed => (Declaration.standard_profiles profile listed).1) profiles

theorem stack_idle (profiles : List String) : (stack profiles).sources.Idle :=
  stack_induction Declaration.manifest_idle
    (fun profile listed => (Declaration.standard_profiles profile listed).2) profiles

/-- Every stack of the profiles makes a store. -/
theorem exists_build_stack (profiles : List String)
    (known : ∀ name ∈ profiles, name ∈ Registry.standard.names) :
    ∃ store, (stack profiles).build = .ok store := by
  have fitting := stack_fitting profiles
  have idle := stack_idle profiles
  have ready : (stack profiles).Ready := by
    refine ready_of_fitting (fun name selected => KeyMap.mem_keys_iff.mp (known name selected))
      fitting fun spec required => ?_
    obtain ⟨pair, assigned, same⟩ :=
      List.mem_map.mp (Declaration.manifest_complete spec required)
    exact List.mem_map.mpr ⟨pair, mem_sources_iff.mpr (Or.inl assigned), same⟩
  obtain ⟨total, sum, -⟩ := ready.total
  obtain ⟨path, joined, -⟩ := ready.path
  -- Whatever is selected, no instance is asked for.
  have small : total < 2 ^ 63 := by
    obtain ⟨controllers, workers, assigned, assigned', rfl⟩ := sum
    cases idle _ (mem_of_final? assigned) (Or.inl rfl)
    cases idle _ (mem_of_final? assigned') (Or.inr rfl)
    decide
  exact ⟨_, build_eq_ok_iff.mpr (built_finished ready sum small
    (not_refused_of_fitting fitting _ _) joined (not_refused_of_fitting fitting _ _))⟩

theorem value_of_final? {store : Store} (success : blueprint.build = .ok store) (key : String)
    (assigned : Value) (final : blueprint.final? key = some assigned)
    (plain : Store.isDerived key = false) : store.value key = .ok (settled key assigned).value := by
  apply Store.value_of_stored
  simp [Store.stored?, (build_eq_ok_iff.mp success).entries, plain, final]

/-- A stack stores keys of the schema only. -/
theorem stored?_stack_eq_none {profiles : List String} {store : Store}
    (success : (stack profiles).build = .ok store) (key : String)
    (unlisted : ∀ spec ∈ Schema.required, spec.key ≠ key) : store.stored? key = none := by
  refine Option.eq_none_iff_forall_ne_some.mpr fun value stored => ?_
  obtain ⟨assigned, member, -⟩ := (build_eq_ok_iff.mp success).exists_assigned stored
  obtain ⟨spec, required, same, -⟩ := stack_fitting profiles _ member
  exact unlisted spec required same

/-- Under a key where the manifest and the profiles assign only some values, a stack of the profiles
holds one of them. -/
theorem exists_value_stack {profiles : List String} {store : Store}
    (success : (stack profiles).build = .ok store) (key : String) {spec : KeySpec}
    (listed : Schema.lookup? key = some spec) (plain : spec.derived = false) (allowed : List Value)
    (manifest : ∀ pair ∈ Declaration.manifest.assignments, pair.1 = key → pair.2 ∈ allowed)
    (chosen : ∀ profile ∈ Registry.standard.profiles.pairs,
      ∀ pair ∈ profile.2.overrides.assignments, pair.1 = key → pair.2 ∈ allowed) :
    ∃ value ∈ allowed, store.value key = .ok (spec.normalize value) := by
  have built := build_eq_ok_iff.mp success
  obtain ⟨value, stored, -⟩ := (Store.sound_of_built built).stored key listed plain
  obtain ⟨assigned, member, same⟩ := built.exists_assigned stored
  refine ⟨assigned, stack_induction manifest chosen profiles _ member rfl, ?_⟩
  rw [Store.value_of_stored stored, ← same]
  simp [settled, listed]

theorem instanceNum_stack {profiles : List String} {store : Store}
    (success : (stack profiles).build = .ok store) :
    store.value "INSTANCE_NUM" = .ok (.integer 0) := by
  have built := build_eq_ok_iff.mp success
  obtain ⟨controllers, workers, -, -, stored, stored', -, total⟩ :=
    (Store.sound_of_built built).instanceNum
  obtain ⟨count, assigned, same⟩ := built.exists_assigned stored
  obtain ⟨count', assigned', same'⟩ := built.exists_assigned stored'
  cases stack_idle profiles _ assigned (Or.inl rfl)
  cases stack_idle profiles _ assigned' (Or.inr rfl)
  cases same
  cases same'
  exact total

end Blueprint

end LaunchConfig
