import LaunchConfig.Proofs.Derivation
import LaunchConfig.Proofs.KeyMap
import LaunchConfig.Proofs.Schema
import LaunchConfig.Store.Blueprint

/-!
The stages of building a store, each said of the value that counts for a key: the last one that base,
profiles and overlays assign to it. A stage does not depend on the order in which the assigned keys
are gone through, except for the choice among the errors of several values that do not fit.
-/
namespace LaunchConfig

theorem get?_resolve (declaration : Declaration) (key : String) :
    declaration.resolve.get? key = declaration.value? key :=
  KeyMap.get?_ofList declaration.assignments key

theorem value?_eq_some_iff {declaration : Declaration} {key : String} {value : Value} :
    declaration.value? key = some value ↔ ∃ before after,
      declaration.assignments = before ++ (key, value) :: after ∧ key ∉ after.map Prod.fst := by
  rw [Declaration.value?, List.lookup_eq_some_iff]
  constructor
  · rintro ⟨before, after, split, fresh⟩
    refine ⟨after.reverse, before.reverse, ?_, by grind⟩
    rw [← List.reverse_reverse declaration.assignments, split]
    simp
  · rintro ⟨before, after, split, fresh⟩
    refine ⟨after.reverse, before.reverse, ?_, by grind⟩
    rw [split]
    simp

theorem value?_merge (declaration other : Declaration) (key : String) :
    (declaration.merge other).value? key = (other.value? key).or (declaration.value? key) := by
  simp [Declaration.value?, Declaration.merge, List.lookup_append]

theorem value?_single (key other : String) (value : Value) :
    Declaration.value? ⟨[(key, value)]⟩ other = if other = key then some value else none :=
  lookup_cons_eq_ite other (key, value) []

theorem select_of_known {registry : Registry} {names : List String}
    (known : ∀ name ∈ names, (registry.profiles.get? name).isSome) :
    registry.select names = .ok (names.filterMap registry.profiles.get?) := by
  induction names with
  | nil => rfl
  | cons name rest ih =>
    obtain ⟨profile, found⟩ := Option.isSome_iff_exists.mp (known name List.mem_cons_self)
    have tail := ih fun other member => known other (List.mem_cons_of_mem name member)
    have head : registry.get name = .ok profile := by simp [Registry.get, found]
    unfold Registry.select at tail ⊢
    rw [mapM_cons_eq, head, ok_bind, tail, ok_bind]
    simp [found]

theorem get_eq_error_iff {registry : Registry} {name : String} {fault : ConfigError} :
    registry.get name = .error fault ↔
      registry.profiles.get? name = none ∧ fault = .unknownProfile name := by
  unfold Registry.get
  cases found : registry.profiles.get? name <;> simp [eq_comm]

theorem assignments_foldl_profiles (chosen : List Profile) (base : Declaration) :
    (chosen.foldl (fun held profile => held.merge profile.overrides) base).assignments =
      base.assignments ++ chosen.flatMap fun profile => profile.overrides.assignments := by
  induction chosen generalizing base with
  | nil => simp
  | cons profile rest ih => rw [List.foldl_cons, ih]; simp [Declaration.merge]

theorem assignments_foldl_overlays (overlays : List Declaration) (base : Declaration) :
    (overlays.foldl Declaration.merge base).assignments =
      base.assignments ++ overlays.flatMap Declaration.assignments := by
  induction overlays generalizing base with
  | nil => simp
  | cons overlay rest ih => rw [List.foldl_cons, ih]; simp [Declaration.merge]

namespace Blueprint

variable (blueprint : Blueprint)

/-- Every selected profile is in the registry. -/
def Known : Prop :=
  ∀ name ∈ blueprint.profiles, (blueprint.registry.profiles.get? name).isSome

/-- The assignments of the base, of the selected profiles in the order of selection, and of the
overlays in their order. -/
def sources : Declaration :=
  ⟨blueprint.base.assignments
    ++ (blueprint.profiles.filterMap blueprint.registry.profiles.get?).flatMap
      (fun profile => profile.overrides.assignments)
    ++ blueprint.overlays.flatMap Declaration.assignments⟩

/-- The value that counts for a key, if any source assigns one. -/
def final? (key : String) : Option Value :=
  blueprint.sources.value? key

/-- The value that counts for a key does not fit it, with this error. Derived keys are left out. -/
def Unfit (spec : KeySpec) (fault : ConfigError) : Prop :=
  spec ∈ Schema.table ∧ spec.derived = false ∧ ∃ value, blueprint.final? spec.key = some value ∧
    spec.check (spec.normalize value) = .error fault

def Fit : Prop :=
  ∀ spec fault, ¬ blueprint.Unfit spec fault

/-- A required key that no source assigns. -/
def Absent (key : String) : Prop :=
  (∃ spec ∈ Schema.required, spec.key = key) ∧ blueprint.final? key = none

/-- All values that count fit their keys, and no required key is absent. -/
structure Ready : Prop where
  known : blueprint.Known
  fit : blueprint.Fit
  complete : ∀ key, ¬ blueprint.Absent key

/-- The number of all instances is that of the controllers and the workers together. -/
def Total (total : Int) : Prop :=
  ∃ controllers workers : Int64, blueprint.final? "CONTROLLER_NUM" = some (.integer controllers) ∧
    blueprint.final? "WORKER_NUM" = some (.integer workers) ∧
    total = controllers.toInt + workers.toInt

/-- The key file has the name of the key, and stands in its directory. -/
def KeyPath (path : String) : Prop :=
  ∃ directory name : String, blueprint.final? "PRIVATE_KEY_DIR" = some (.text directory) ∧
    blueprint.final? "KEY_NAME" = some (.text name) ∧ path = directory ++ name ++ ".pem"

/-- The value declared for a derived key is refused: it does not fit the key, or it fits but is not
the computed value. -/
inductive Refused (derivation : Derivation) (computed : Value) : ConfigError → Prop
  | unfit {spec : KeySpec} {declared : Value} {fault : ConfigError}
      (listed : Schema.lookup? derivation.key = some spec)
      (assigned : blueprint.final? derivation.key = some declared)
      (unfit : spec.check (spec.normalize declared) = .error fault) :
      Refused derivation computed fault
  | differs {spec : KeySpec} {declared : Value}
      (listed : Schema.lookup? derivation.key = some spec)
      (assigned : blueprint.final? derivation.key = some declared)
      (fits : spec.check (spec.normalize declared) = .ok ())
      (differs : spec.normalize declared ≠ computed) :
      Refused derivation computed (.derivationConflict derivation.key
        (spec.normalize declared).display computed.display)

/-- The setting that a value makes of its key, if it fits. -/
def settled (key : String) (value : Value) : Setting :=
  match Schema.lookup? key with
  | some spec => ⟨spec.normalize value, spec.category⟩
  | none => ⟨value, .other⟩

/-- The settings of all keys that are not derived. -/
def settings : KeyMap Setting :=
  .ofList ((blueprint.sources.resolve.pairs.filter fun pair => !Store.isDerived pair.1).map
    fun pair => (pair.1, settled pair.1 pair.2))

variable {blueprint}

theorem mem_sources_iff {pair : String × Value} : pair ∈ blueprint.sources.assignments ↔
    pair ∈ blueprint.base.assignments ∨
      (∃ name ∈ blueprint.profiles, ∃ profile, blueprint.registry.profiles.get? name = some profile ∧
        pair ∈ profile.overrides.assignments) ∨
      ∃ overlay ∈ blueprint.overlays, pair ∈ overlay.assignments := by
  simp only [sources, List.mem_append, List.mem_flatMap, List.mem_filterMap, or_assoc]
  refine or_congr_right (or_congr_left ?_)
  constructor
  · rintro ⟨profile, ⟨name, selected, found⟩, assigned⟩
    exact ⟨name, selected, profile, found, assigned⟩
  · rintro ⟨name, selected, profile, found, assigned⟩
    exact ⟨profile, ⟨name, selected, found⟩, assigned⟩

theorem mem_of_final? {key : String} {value : Value} (assigned : blueprint.final? key = some value) :
    (key, value) ∈ blueprint.sources.assignments := by
  obtain ⟨before, after, split, -⟩ := value?_eq_some_iff.mp assigned
  rw [split]
  simp

theorem final?_eq_none_iff {key : String} : blueprint.final? key = none ↔
    key ∉ blueprint.sources.assignments.map Prod.fst := by
  rw [final?, Declaration.value?, lookup_eq_none_iff_notMem, List.map_reverse, List.mem_reverse]

theorem final?_overlay (blueprint : Blueprint) (overlay : Declaration) (key : String) :
    (blueprint.overlay overlay).final? key = (overlay.value? key).or (blueprint.final? key) := by
  have merged : (blueprint.overlay overlay).sources = blueprint.sources.merge overlay := by
    simp [sources, Blueprint.overlay, Declaration.merge]
  rw [final?, merged, value?_merge, final?]

theorem declaration_of_known (known : blueprint.Known) :
    blueprint.declaration = .ok blueprint.sources := by
  unfold Blueprint.declaration
  rw [select_of_known known, ok_bind]
  refine congrArg Except.ok ?_
  rw [sources, ← assignments_foldl_profiles, ← assignments_foldl_overlays]

theorem declaration_eq_error_iff {fault : ConfigError} :
    blueprint.declaration = .error fault ↔ ∃ before name after,
      blueprint.profiles = before ++ name :: after ∧
      (∀ earlier ∈ before, (blueprint.registry.profiles.get? earlier).isSome) ∧
      blueprint.registry.profiles.get? name = none ∧ fault = .unknownProfile name := by
  have stops : blueprint.declaration = .error fault ↔
      blueprint.registry.select blueprint.profiles = .error fault := by
    unfold Blueprint.declaration
    rw [bind_eq_error_iff]
    simp [pure, Except.pure]
  rw [stops, Registry.select, mapM_eq_error_iff]
  have found : ∀ name, (∃ profile, blueprint.registry.get name = .ok profile) ↔
      (blueprint.registry.profiles.get? name).isSome := by
    intro name
    unfold Registry.get
    cases blueprint.registry.profiles.get? name <;> simp
  simp only [found, get_eq_error_iff]

theorem known_or_unknown (blueprint : Blueprint) :
    blueprint.Known ∨ ∃ fault, blueprint.declaration = .error fault := by
  rcases ok_or_error blueprint.declaration with ⟨declaration, success⟩ | failed
  · left
    intro name member
    unfold Blueprint.declaration at success
    obtain ⟨chosen, selected, -⟩ := bind_eq_ok_iff.mp success
    obtain ⟨profile, -, found⟩ := step_of_mapM_eq_ok selected name member
    cases held : blueprint.registry.profiles.get? name with
    | some profile => rfl
    | none => simp [Registry.get, held] at found
  · exact Or.inr failed

theorem settle_of_stores {key : String} {value : Value}
    (fits : ∀ spec, Schema.lookup? key = some spec → spec.Stores (spec.normalize value)) :
    settle key value = .ok (settled key value) := by
  unfold settle settled
  cases listed : Schema.lookup? key with
  | none => rfl
  | some spec =>
    have checked := (spec.check_eq_ok_iff _).mpr (fits spec listed)
    simp [KeySpec.accept, checked, ok_bind, pure, Except.pure]

theorem settle_eq_error_iff {key : String} {value : Value} {fault : ConfigError} :
    settle key value = .error fault ↔ ∃ spec, Schema.lookup? key = some spec ∧
      spec.check (spec.normalize value) = .error fault := by
  unfold settle
  cases listed : Schema.lookup? key with
  | none => simp
  | some spec => simp [KeySpec.accept, bind_eq_error_iff, pure, Except.pure]

section Enumeration

-- The assigned keys with their values, in whichever order they are gone through.
variable {order : List (String × Value)}

theorem lookup_enumeration (enumerated : order.Perm blueprint.sources.resolve.pairs)
    (key : String) : order.lookup key = blueprint.final? key := by
  rw [← lookup_perm (keys_nodup blueprint.sources.resolve.ascending) enumerated.symm]
  exact get?_resolve blueprint.sources key

theorem mem_enumeration_iff (enumerated : order.Perm blueprint.sources.resolve.pairs)
    {key : String} {value : Value} :
    (key, value) ∈ order ↔ blueprint.final? key = some value := by
  rw [enumerated.mem_iff, KeyMap.mem_pairs_iff, get?_resolve]
  rfl

-- Settling changes no key, so a look-up passes through the filter and the map.
theorem get?_ofList_settled (enumerated : order.Perm blueprint.sources.resolve.pairs)
    (key : String) :
    (KeyMap.ofList ((order.filter fun pair => !Store.isDerived pair.1).map
      fun pair => (pair.1, settled pair.1 pair.2))).get? key =
        if Store.isDerived key then none else (blueprint.final? key).map (settled key) := by
  have once := (enumerated.map Prod.fst).nodup_iff.mpr
    (keys_nodup blueprint.sources.resolve.ascending)
  rw [KeyMap.get?_ofList_of_nodup, lookup_map settled,
    lookup_filter fun name => !Store.isDerived name, lookup_enumeration enumerated]
  · by_cases derived : Store.isDerived key = true <;> simp [derived]
  · rw [List.map_map]
    exact once.sublist (List.filter_sublist.map Prod.fst)

theorem get?_settings (key : String) : blueprint.settings.get? key =
    if Store.isDerived key then none else (blueprint.final? key).map (settled key) :=
  get?_ofList_settled (List.Perm.refl _) key

theorem unfit_of_settleAll (enumerated : order.Perm blueprint.sources.resolve.pairs)
    {fault : ConfigError} (failed : settleAll order = .error fault) :
    ∃ spec, blueprint.Unfit spec fault := by
  unfold settleAll at failed
  rcases bind_eq_error_iff.mp failed with failed | ⟨_, _, impossible⟩
  · obtain ⟨before, ⟨key, value⟩, after, split, -, bad⟩ := mapM_eq_error_iff.mp failed
    have member : (key, value) ∈ order.filter fun pair => !Store.isDerived pair.1 := by
      rw [split]
      simp
    obtain ⟨listed, stored⟩ := List.mem_filter.mp member
    have refused : settle key value = .error fault :=
      (bind_eq_error_iff.mp bad).resolve_right (by simp [pure, Except.pure])
    -- The key that fails is in the schema, because other keys take any value.
    obtain ⟨spec, found, checked⟩ := settle_eq_error_iff.mp refused
    obtain ⟨inTable, rfl⟩ := Schema.lookup?_eq_some_iff.mp found
    refine ⟨spec, inTable, ?_, value, (mem_enumeration_iff enumerated).mp listed, checked⟩
    simpa [Schema.derived_eq_isDerived spec inTable] using stored
  · cases impossible

theorem fit_of_settleAll (enumerated : order.Perm blueprint.sources.resolve.pairs)
    {entries : KeyMap Setting} (success : settleAll order = .ok entries) : blueprint.Fit := by
  rintro spec fault ⟨inTable, plain, value, assigned, refused⟩
  obtain ⟨pairs, settledAll, -⟩ := bind_eq_ok_iff.mp success
  have listed : (spec.key, value) ∈ order := (mem_enumeration_iff enumerated).mpr assigned
  have stored : Store.isDerived spec.key = false := by
    rw [← Schema.derived_eq_isDerived spec inTable, plain]
  obtain ⟨pair, -, done⟩ := step_of_mapM_eq_ok settledAll (spec.key, value)
    (List.mem_filter.mpr ⟨listed, by simp [stored]⟩)
  obtain ⟨setting, settles, -⟩ := bind_eq_ok_iff.mp done
  have bad := settle_eq_error_iff.mpr
    ⟨spec, Schema.lookup?_eq_some_iff.mpr ⟨inTable, rfl⟩, refused⟩
  cases bad.symm.trans settles

theorem settleAll_of_fit (enumerated : order.Perm blueprint.sources.resolve.pairs)
    (fit : blueprint.Fit) : settleAll order = .ok blueprint.settings := by
  -- Every step succeeds, so the walk over the keys is a plain map.
  have steps : ∀ pair ∈ order.filter fun pair => !Store.isDerived pair.1,
      (do let setting ← settle pair.1 pair.2; return (pair.1, setting)) =
        (.ok (pair.1, settled pair.1 pair.2) : Except ConfigError (String × Setting)) := by
    intro pair member
    obtain ⟨listed, stored⟩ := List.mem_filter.mp member
    rw [settle_of_stores, ok_bind]
    · rfl
    · intro spec found
      obtain ⟨inTable, named⟩ := Schema.lookup?_eq_some_iff.mp found
      rcases ok_or_error (spec.check (spec.normalize pair.2)) with ⟨_, fine⟩ | ⟨fault, refused⟩
      · exact (spec.check_eq_ok_iff _).mp fine
      · refine absurd ⟨inTable, ?_, pair.2, ?_, refused⟩ (fit spec fault)
        · simpa [Schema.derived_eq_isDerived spec inTable, named] using stored
        · rw [named]
          exact (mem_enumeration_iff enumerated).mp listed
  have settledAll := mapM_eq_map steps
  unfold settleAll
  rw [settledAll, ok_bind]
  refine congrArg Except.ok (KeyMap.ext_get? fun key => ?_)
  rw [get?_settings]
  exact get?_ofList_settled enumerated key

end Enumeration

/-- Going first through a key whose value does not fit gives the error of that value. -/
theorem exists_order_of_unfit {spec : KeySpec} {fault : ConfigError}
    (unfit : blueprint.Unfit spec fault) :
    ∃ order : List (String × Value), order.Perm blueprint.sources.resolve.pairs ∧
      settleAll order = .error fault := by
  obtain ⟨inTable, plain, value, assigned, refused⟩ := unfit
  have member : (spec.key, value) ∈ blueprint.sources.resolve.pairs :=
    (mem_enumeration_iff (List.Perm.refl _)).mpr assigned
  refine ⟨_, (List.perm_cons_erase member).symm, ?_⟩
  have stored : Store.isDerived spec.key = false := by
    rw [← Schema.derived_eq_isDerived spec inTable, plain]
  have bad : settle spec.key value = .error fault :=
    settle_eq_error_iff.mpr ⟨spec, Schema.lookup?_eq_some_iff.mpr ⟨inTable, rfl⟩, refused⟩
  unfold settleAll
  rw [List.filter_cons_of_pos (by simp [stored]), mapM_cons_eq]
  simp only [bad, error_bind]

theorem mem_missing_iff {key : String} :
    key ∈ missing blueprint.settings ↔ blueprint.Absent key := by
  unfold missing Absent
  have required : key ∈ (KeyMap.ofList (Schema.required.map fun spec => (spec.key, spec))).keys ↔
      ∃ spec ∈ Schema.required, spec.key = key := by
    rw [KeyMap.mem_keys_iff, KeyMap.get?_ofList, lookup_isSome_iff_mem]
    simp
  rw [List.mem_filter, required]
  refine and_congr_right ?_
  rintro ⟨spec, member, rfl⟩
  obtain ⟨inTable, plain⟩ := List.mem_filter.mp member
  have stored : Store.isDerived spec.key = false := by
    rw [← Schema.derived_eq_isDerived spec inTable]
    simpa using plain
  simp [KeyMap.contains, get?_settings, stored]

theorem missing_ascending (entries : KeyMap Setting) : (missing entries).Pairwise (· < ·) :=
  (KeyMap.keys_ascending _).sublist List.filter_sublist

/-- A required key has a value that fits it, and this is the stored one. -/
theorem Ready.stored (ready : blueprint.Ready) (key : String) {spec : KeySpec}
    (listed : Schema.lookup? key = some spec) (plain : spec.derived = false) :
    ∃ value, blueprint.final? key = some value ∧ spec.Stores (spec.normalize value) ∧
      blueprint.settings.get? key = some ⟨spec.normalize value, spec.category⟩ := by
  obtain ⟨inTable, rfl⟩ := Schema.lookup?_eq_some_iff.mp listed
  have required : spec ∈ Schema.required := List.mem_filter.mpr ⟨inTable, by simp [plain]⟩
  have stored : Store.isDerived spec.key = false := by
    rw [← Schema.derived_eq_isDerived spec inTable, plain]
  cases assigned : blueprint.final? spec.key with
  | none => exact absurd ⟨⟨spec, required, rfl⟩, assigned⟩ (ready.complete spec.key)
  | some value =>
    refine ⟨value, rfl, ?_, by simp [get?_settings, stored, assigned, settled, listed]⟩
    rcases ok_or_error (spec.check (spec.normalize value)) with ⟨_, fine⟩ | ⟨fault, refused⟩
    · exact (spec.check_eq_ok_iff _).mp fine
    · exact absurd ⟨inTable, plain, value, assigned, refused⟩ (ready.fit spec fault)

theorem Ready.count (ready : blueprint.Ready) (key : String) {spec : KeySpec}
    (listed : Schema.lookup? key = some spec) (plain : spec.derived = false)
    (kind : spec.kind = .count) (held : spec.nullable = false) :
    ∃ n : Int64, 0 ≤ n.toInt ∧ blueprint.final? key = some (.integer n) ∧
      blueprint.settings.get? key = some ⟨.integer n, spec.category⟩ := by
  obtain ⟨value, assigned, stores, stored⟩ := ready.stored key listed plain
  cases value <;> simp [KeySpec.normalize, KeySpec.Stores, kind, held] at stores stored
  exact ⟨_, stores, assigned, stored⟩

theorem Ready.text (ready : blueprint.Ready) (key : String) {spec : KeySpec}
    (listed : Schema.lookup? key = some spec) (plain : spec.derived = false)
    (kind : spec.kind = .text) (held : spec.nullable = false) :
    ∃ words : String, blueprint.final? key = some (.text words) ∧
      blueprint.settings.get? key = some ⟨.text words, spec.category⟩ := by
  obtain ⟨value, assigned, stores, stored⟩ := ready.stored key listed plain
  cases value <;> simp [KeySpec.normalize, KeySpec.Stores, kind, held] at stores stored
  exact ⟨_, assigned, stored⟩

theorem checkDerived_eq_error_iff {order : List (String × Value)}
    (enumerated : order.Perm blueprint.sources.resolve.pairs) {entries : KeyMap Setting}
    {derivation : Derivation} {computed : Value}
    (computes : derivation.compute (fun key => (entries.get? key).map Setting.value) = .ok computed)
    (fault : ConfigError) : checkDerived order entries derivation = .error fault ↔
      blueprint.Refused derivation computed fault := by
  obtain ⟨spec, listed, -⟩ := Schema.lookup?_derivation derivation
  unfold checkDerived
  rw [computes, ok_bind, lookup_enumeration enumerated]
  cases assigned : blueprint.final? derivation.key with
  | none =>
    constructor
    · intro impossible
      cases impossible
    · rintro (⟨-, declared, -⟩ | ⟨-, declared, -, -⟩) <;> simp [assigned] at declared
  | some declared =>
    simp only
    cases checked : spec.check (spec.normalize declared) with
    | error refusal =>
      rw [settle_eq_error_iff.mpr ⟨spec, listed, checked⟩, error_bind]
      constructor
      · rintro ⟨⟩
        exact .unfit listed assigned checked
      · rintro (⟨found, same, refused⟩ | ⟨found, same, fits, -⟩)
        all_goals
          cases Option.some.inj (found.symm.trans listed)
          cases Option.some.inj (same.symm.trans assigned)
        · exact congrArg Except.error (Except.error.inj (checked.symm.trans refused))
        · cases checked.symm.trans fits
    | ok done =>
      -- The declared value fits, so all that is left is to compare it with the computed one.
      have fits : settle derivation.key declared = .ok (settled derivation.key declared) := by
        apply settle_of_stores
        intro other found
        cases Option.some.inj (found.symm.trans listed)
        exact (spec.check_eq_ok_iff _).mp checked
      have value : (settled derivation.key declared).value = spec.normalize declared := by
        simp [settled, listed]
      rw [fits, ok_bind, value]
      constructor
      · intro failed
        by_cases same : spec.normalize declared = computed
        · rw [if_pos same] at failed
          cases failed
        · rw [if_neg same] at failed
          cases failed
          exact .differs listed assigned checked same
      · rintro (⟨found, same, refused⟩ | ⟨found, same, -, differs⟩)
        all_goals
          cases Option.some.inj (found.symm.trans listed)
          cases Option.some.inj (same.symm.trans assigned)
        · cases checked.symm.trans refused
        · rw [if_neg differs]
          rfl

end Blueprint

end LaunchConfig
