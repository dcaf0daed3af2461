import LaunchConfig.Proofs.Store

/-!
Building on values that fit. When every value that counts for a key of the schema fits the key, and
none is missing, only two things are left that can fail: the number of all instances may be too
large, and a value declared for a derived key may not be the computed one.
-/
namespace LaunchConfig

namespace Declaration

/-- The value that counts for a key of the schema fits the key, if the key is assigned at all. -/
def Conforms (declaration : Declaration) : Prop :=
  ∀ key value spec, declaration.value? key = some value → Schema.lookup? key = some spec →
    spec.Stores (spec.normalize value)

theorem conforms_of_assignments {declaration : Declaration}
    (fits : ∀ pair ∈ declaration.assignments, ∀ spec, Schema.lookup? pair.1 = some spec →
      spec.Stores (spec.normalize pair.2)) : declaration.Conforms := by
  intro key value spec last listed
  obtain ⟨before, after, split, -⟩ := value?_eq_some_iff.mp last
  apply fits (key, value) _ spec listed
  rw [split]
  exact List.mem_append_right before List.mem_cons_self

theorem Conforms.merge {declaration other : Declaration} (first : declaration.Conforms)
    (second : other.Conforms) : (declaration.merge other).Conforms := by
  intro key value spec last listed
  rw [value?_merge] at last
  cases own : other.value? key with
  | none => exact first key value spec (by simpa [own] using last) listed
  | some held =>
    rw [own, Option.some_or] at last
    cases last
    exact second key value spec own listed

end Declaration

namespace Store

variable {store : Store} (sound : store.Sound) {key : String}
include sound

/-- What is read under a key of the schema fits the key, also when it is computed. -/
theorem Sound.stores_value {spec : KeySpec} {value : Value} (read : store.value key = .ok value)
    (listed : Schema.lookup? key = some spec) : spec.Stores value := by
  cases derived : isDerived key with
  | false =>
    obtain ⟨setting, found, rfl⟩ := Option.map_eq_some_iff.mp ((value_eq_ok_iff derived).mp read)
    exact (sound.fits found listed).1
  | true =>
    rcases isDerived_iff.mp derived with rfl | rfl
    · obtain ⟨_, _, first, second, -, -, small, computed⟩ := sound.instanceNum
      cases computed.symm.trans read
      cases listed
      refine ⟨rfl, ?_⟩
      rw [Int64.toInt_ofInt_of_le (by omega) small]
      omega
    · obtain ⟨_, _, -, -, computed⟩ := sound.privateKey
      cases computed.symm.trans read
      cases listed
      rfl

theorem Sound.settled_value {setting : Setting} (found : store.entries.get? key = some setting) :
    Blueprint.settled key setting.value = setting := by
  obtain ⟨value, category⟩ := setting
  unfold Blueprint.settled
  cases listed : Schema.lookup? key with
  | none => rw [← sound.other found listed]
  | some spec =>
    obtain ⟨stores, rfl⟩ := sound.fits found listed
    simp only [KeySpec.normalize_of_stores stores]

end Store

namespace Blueprint

variable {blueprint : Blueprint} {overlay : Declaration} {store : Store}

theorem sources_overlay (blueprint : Blueprint) (overlay : Declaration) :
    (blueprint.overlay overlay).sources = blueprint.sources.merge overlay := by
  simp [sources, Blueprint.overlay, Declaration.merge]

/-- A built store was built of fitting values only, those for derived keys included. -/
theorem Built.conforms (built : blueprint.Built store) : blueprint.sources.Conforms := by
  intro key value spec assigned listed
  apply (spec.check_eq_ok_iff _).mp
  rcases ok_or_error (spec.check (spec.normalize value)) with ⟨_, fine⟩ | ⟨fault, refused⟩
  · exact fine
  · obtain ⟨inTable, rfl⟩ := Schema.lookup?_eq_some_iff.mp listed
    cases derived : spec.derived with
    | false => exact absurd ⟨inTable, derived, value, assigned, refused⟩ (built.ready.fit spec fault)
    | true =>
      rw [Schema.derived_eq_isDerived spec inTable] at derived
      obtain ⟨total, -, -, totalAgrees⟩ := built.total
      obtain ⟨path, -, pathAgrees⟩ := built.path
      rcases Store.isDerived_iff.mp derived with same | same
      · rw [same] at assigned listed
        exact absurd (.unfit listed assigned refused) (totalAgrees fault)
      · rw [same] at assigned listed
        exact absurd (.unfit listed assigned refused) (pathAgrees fault)

theorem ready_of_conforms (known : blueprint.Known) (conforms : blueprint.sources.Conforms)
    (complete : ∀ key, ¬ blueprint.Absent key) : blueprint.Ready := by
  refine ⟨known, ?_, complete⟩
  rintro spec fault ⟨inTable, -, value, assigned, refused⟩
  have fits := conforms _ _ _ assigned (Schema.lookup?_eq_some_iff.mpr ⟨inTable, rfl⟩)
  cases refused.symm.trans ((spec.check_eq_ok_iff _).mpr fits)

theorem Built.conforms_overlay (built : blueprint.Built store) (conforms : overlay.Conforms) :
    (blueprint.overlay overlay).sources.Conforms := by
  rw [sources_overlay]
  exact built.conforms.merge conforms

-- An overlay takes no assignment away, so no key gets lost.
theorem Built.ready_overlay (built : blueprint.Built store) (conforms : overlay.Conforms) :
    (blueprint.overlay overlay).Ready := by
  apply ready_of_conforms
  · exact built.ready.known
  · exact built.conforms_overlay conforms
  · rintro key ⟨required, absent⟩
    rw [final?_overlay, Option.or_eq_none_iff] at absent
    exact built.ready.complete key ⟨required, absent.2⟩

/-- A value that is declared for the key, if there is one, is the computed one. -/
def Agrees (blueprint : Blueprint) (key : String) (computed : Value) : Prop :=
  ∀ declared, blueprint.final? key = some declared → declared = computed

/-- The outcome is the error of a declared value that is not the computed one. -/
def Contradicted (blueprint : Blueprint) (key : String) (computed : Value)
    (outcome : Except ConfigError Store) : Prop :=
  ∃ declared, blueprint.final? key = some declared ∧ declared ≠ computed ∧
    outcome = .error (.derivationConflict key declared.display computed.display)

/-- A fitting value for a derived key is refused for one reason only: it is not the computed one. -/
theorem refused_iff_of_conforms (conforms : blueprint.sources.Conforms) {derivation : Derivation}
    {computed : Value} {fault : ConfigError} : blueprint.Refused derivation computed fault ↔
      blueprint.Contradicted derivation.key computed (.error fault) := by
  constructor
  · intro refused
    cases refused with
    | unfit listed assigned unfit =>
      cases unfit.symm.trans ((KeySpec.check_eq_ok_iff _ _).mpr (conforms _ _ _ assigned listed))
    | differs listed assigned fits differs =>
      rw [Schema.normalize_derivation listed] at differs ⊢
      exact ⟨_, assigned, differs, rfl⟩
  · rintro ⟨declared, assigned, differs, same⟩
    obtain ⟨spec, listed, -⟩ := Schema.lookup?_derivation derivation
    have fits := (spec.check_eq_ok_iff _).mpr (conforms _ _ _ assigned listed)
    have kept := Schema.normalize_derivation listed declared
    have refused := Refused.differs listed assigned fits (by rwa [kept])
    rw [kept] at refused
    cases same
    exact refused

theorem agrees_of_not_refused (conforms : blueprint.sources.Conforms) {derivation : Derivation}
    {computed : Value} (fine : ∀ fault, ¬ blueprint.Refused derivation computed fault) :
    blueprint.Agrees derivation.key computed := by
  intro declared assigned
  by_contra differs
  exact fine _ ((refused_iff_of_conforms conforms).mpr ⟨declared, assigned, differs, rfl⟩)

theorem not_refused_of_agrees {derivation : Derivation} {computed : Value}
    (declared : blueprint.final? derivation.key = some computed)
    (stores : ∀ spec, Schema.lookup? derivation.key = some spec → spec.Stores computed)
    (fault : ConfigError) : ¬ blueprint.Refused derivation computed fault := by
  rintro (⟨listed, assigned, unfit⟩ | ⟨listed, assigned, -, differs⟩)
  all_goals
    cases declared.symm.trans assigned
    have fits := stores _ listed
    rw [KeySpec.normalize_of_stores fits] at *
  · cases unfit.symm.trans ((KeySpec.check_eq_ok_iff _ _).mpr fits)
  · exact absurd rfl differs

/-- The outcomes that are left when all values fit. The stages behind are gone through in order, and
each is passed or ends the build. -/
theorem outcome_of_ready (ready : blueprint.Ready) (conforms : blueprint.sources.Conforms)
    {outcome : Except ConfigError Store} (possible : blueprint.Outcome outcome) :
    ∃ total path, blueprint.Total total ∧ blueprint.KeyPath path ∧
      ((2 ^ 63 ≤ total ∧ outcome = .error (.invalidValue "INSTANCE_NUM" .countOverflow)) ∨
        (total < 2 ^ 63 ∧
          blueprint.Contradicted "INSTANCE_NUM" (.integer (Int64.ofInt total)) outcome) ∨
        (total < 2 ^ 63 ∧ blueprint.Agrees "INSTANCE_NUM" (.integer (Int64.ofInt total)) ∧
          blueprint.Contradicted "PRIVATE_KEY" (.text path) outcome) ∨
        (total < 2 ^ 63 ∧ blueprint.Agrees "INSTANCE_NUM" (.integer (Int64.ofInt total)) ∧
          blueprint.Agrees "PRIVATE_KEY" (.text path) ∧ ∃ store, outcome = .ok store)) := by
  obtain ⟨path, joined, -⟩ := ready.path
  cases possible with
  | unknownProfile selected known unknown =>
    have found := ready.known _ (selected ▸ List.mem_append_right _ List.mem_cons_self)
    simp [unknown] at found
  | unfit known unfit => exact absurd unfit (ready.fit _ _)
  | missing known fit some ascending absent =>
    obtain ⟨key, member⟩ := List.exists_mem_of_ne_nil _ some
    exact absurd ((absent key).mp member) (ready.complete key)
  | overflow _ sum large => exact ⟨_, path, sum, joined, .inl ⟨large, rfl⟩⟩
  | refusedTotal _ sum small refused =>
    have contradicted := (refused_iff_of_conforms conforms).mp refused
    exact ⟨_, path, sum, joined, .inr (.inl ⟨small, contradicted⟩)⟩
  | refusedPath _ sum small fine joined refused =>
    have agrees := agrees_of_not_refused conforms fine
    have contradicted := (refused_iff_of_conforms conforms).mp refused
    exact ⟨_, _, sum, joined, .inr (.inr (.inl ⟨small, agrees, contradicted⟩))⟩
  | built built =>
    obtain ⟨total, sum, small, fine⟩ := built.total
    obtain ⟨path, joined, fine'⟩ := built.path
    have agrees := agrees_of_not_refused conforms fine
    have agrees' := agrees_of_not_refused conforms fine'
    exact ⟨total, path, sum, joined, .inr (.inr (.inr ⟨small, agrees, agrees', _, rfl⟩))⟩

/-- A value declared for a derived key of a built store is the one that the store computes. -/
theorem Built.agrees (built : blueprint.Built store) {derivation : Derivation} {computed : Value}
    (read : store.value derivation.key = .ok computed) (fault : ConfigError) :
    ¬ blueprint.Refused derivation computed fault := by
  have settings : store.entries = blueprint.settings := congrArg Store.entries (eq_finished built)
  rw [Store.value_derived (Store.sound_of_built built)] at read
  unfold Store.stored? at read
  rw [settings] at read
  cases derivation with
  | instanceNum =>
    obtain ⟨total, sum, small, agrees⟩ := built.total
    obtain ⟨other, sum', computes⟩ := built.ready.total
    rw [sum.unique sum'] at small agrees
    cases read.symm.trans (computes.trans (if_pos small))
    exact agrees fault
  | privateKey =>
    obtain ⟨path, joined, agrees⟩ := built.path
    obtain ⟨other, joined', computes⟩ := built.ready.path
    rw [joined.unique joined'] at agrees
    cases read.symm.trans computes
    exact agrees fault

theorem get?_settings_overlay (blueprint : Blueprint) (overlay : Declaration) (key : String) :
    (blueprint.overlay overlay).settings.get? key =
      if Store.isDerived key then none
      else ((overlay.value? key).map (settled key)).or (blueprint.settings.get? key) := by
  rw [get?_settings, get?_settings, final?_overlay]
  by_cases derived : Store.isDerived key = true
  · simp [derived]
  · cases overlay.value? key <;> simp [derived]

/-- An overlay that repeats what the store has under a key leaves the setting as it is. -/
theorem Built.get?_settings_overlay_of_kept (built : blueprint.Built store) {key : String}
    (kept : ∀ value, overlay.value? key = some value → store.value key = .ok value) :
    (blueprint.overlay overlay).settings.get? key = store.entries.get? key := by
  have settings : store.entries = blueprint.settings := congrArg Store.entries (eq_finished built)
  rw [get?_settings_overlay, ← settings]
  cases derived : Store.isDerived key with
  | true => simp [built.entries, derived]
  | false =>
    cases last : overlay.value? key with
    | none => simp
    | some value =>
      have stored := (Store.value_eq_ok_iff derived).mp (kept value last)
      obtain ⟨setting, found, rfl⟩ := Option.map_eq_some_iff.mp stored
      simp [found, (Store.sound_of_built built).settled_value found]

/-- An overlay of fitting values can be built on when it leaves the derived keys and their inputs
as they are. -/
theorem Built.overlay_of_kept (built : blueprint.Built store) (conforms : overlay.Conforms)
    (kept : ∀ derivation : Derivation, ∀ key ∈ derivation.key :: derivation.inputs, ∀ value,
      overlay.value? key = some value → store.value key = .ok value) :
    (blueprint.overlay overlay).Built (blueprint.overlay overlay).finished := by
  have sound := Store.sound_of_built built
  have ready := built.ready_overlay conforms
  have computes : ∀ derivation : Derivation, derivation.compute
      (fun key => ((blueprint.overlay overlay).settings.get? key).map Setting.value) =
        store.value derivation.key := by
    intro derivation
    rw [Store.value_derived sound]
    apply Derivation.compute_congr
    intro key input
    rw [built.get?_settings_overlay_of_kept (kept derivation key (List.mem_cons_of_mem _ input))]
    rfl
  have agrees : ∀ (derivation : Derivation) computed, store.value derivation.key = .ok computed →
      ∀ fault, ¬ (blueprint.overlay overlay).Refused derivation computed fault := by
    intro derivation computed read fault refused
    cases last : overlay.value? derivation.key with
    | some value =>
      cases read.symm.trans (kept derivation _ List.mem_cons_self value last)
      refine not_refused_of_agrees ?_ (fun spec => sound.stores_value read) fault refused
      rw [final?_overlay, last, Option.some_or]
    | none =>
      -- The overlay declares nothing, so the declared value is one that was built on before.
      have same : (blueprint.overlay overlay).final? derivation.key =
          blueprint.final? derivation.key := by
        rw [final?_overlay, last, Option.none_or]
      apply built.agrees read fault
      cases refused with
      | unfit listed assigned unfit => exact .unfit listed (same ▸ assigned) unfit
      | differs listed assigned fits differs => exact .differs listed (same ▸ assigned) fits differs
  obtain ⟨total, sum, counted⟩ := ready.total
  obtain ⟨path, joined, placed⟩ := ready.path
  rw [computes] at counted placed
  have small : total < 2 ^ 63 := by
    by_contra large
    obtain ⟨_, _, _, _, _, _, _, computed⟩ := sound.instanceNum
    cases computed.symm.trans (counted.trans (if_neg large))
  rw [if_pos small] at counted
  exact built_finished ready sum small (agrees _ _ counted) joined (agrees _ _ placed)

end Blueprint

end LaunchConfig
