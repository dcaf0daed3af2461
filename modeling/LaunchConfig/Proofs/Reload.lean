import LaunchConfig.Proofs.Export
import LaunchConfig.Proofs.Standard

/-!
Building a store from the TOML form of another. The form gives back every value but for two losses:
outside the schema nothing tells a plain integer from a number of seconds, and a setting named like
the reserved list gives way to it. Derived keys are declared by the form, and agree with their
inputs again.
-/
namespace LaunchConfig

namespace Store

/-- No stored value is too long for the TOML form. -/
def Writable (store : Store) : Prop :=
  ∀ key value, store.stored? key = some value → ¬ value.TooLong

/-- The TOML form of the store loses nothing. -/
structure Faithful (store : Store) : Prop where
  seconds : ∀ key seconds, store.stored? key = some (.seconds seconds) →
    (Schema.lookup? key).isSome
  reserved : ∀ value, store.stored? Declaration.disabledKey = some value → value = .null

theorem Sound.value_seconds_iff {store : Store} (sound : store.Sound) {key : String} {seconds : UInt64} :
    store.value key = .ok (.seconds seconds) ↔ store.stored? key = some (.seconds seconds) := by
  constructor
  · intro read
    cases derived : isDerived key with
    | false => exact (value_eq_ok_iff derived).mp read
    | true =>
      -- A derived key holds a number of instances or a path.
      rcases isDerived_iff.mp derived with rfl | rfl
      · obtain ⟨_, _, _, _, _, _, _, computed⟩ := sound.instanceNum
        cases computed.symm.trans read
      · obtain ⟨_, _, _, _, computed⟩ := sound.privateKey
        cases computed.symm.trans read
  · exact value_of_stored

theorem Sound.not_tooLong {store : Store} (sound : store.Sound) (short : store.Writable)
    {key : String} {value : Value} (read : store.value key = .ok value) : ¬ value.TooLong := by
  intro long
  cases value with
  | seconds held => exact short key _ (sound.value_seconds_iff.mp read) long
  | _ => exact long.elim

end Store

namespace Declaration

/-- No assignment that the TOML form of a store would lose. -/
def Tame (declaration : Declaration) : Prop :=
  ∀ pair ∈ declaration.assignments,
    (∀ seconds, pair.2 = .seconds seconds → (Schema.lookup? pair.1).isSome) ∧
      (pair.1 = disabledKey → pair.2 = .null)

theorem tame_of_listed {declaration : Declaration}
    (listed : ∀ pair ∈ declaration.assignments, (Schema.lookup? pair.1).isSome) :
    declaration.Tame := by
  intro pair assigned
  refine ⟨fun seconds _ => listed pair assigned, ?_⟩
  intro reserved
  have known := listed pair assigned
  rw [reserved] at known
  cases known

theorem Fitting.tame {declaration : Declaration} (fitting : declaration.Fitting) :
    declaration.Tame := by
  apply tame_of_listed
  intro pair assigned
  obtain ⟨spec, required, named, -⟩ := fitting pair assigned
  have found := Schema.lookup?_eq_some_iff.mpr ⟨List.mem_of_mem_filter required, named⟩
  simp [found]

end Declaration

namespace Blueprint

variable {store : Store} {blueprint : Blueprint}

/-- The value that counts for a key is the one that the store holds for it, as TOML gives it back. -/
def Echoes (blueprint : Blueprint) (store : Store) : Prop :=
  ∀ key, blueprint.final? key = (store.value key).toOption.map Value.reread

theorem normalize_reread {spec : KeySpec} {value : Value} (stores : spec.Stores value)
    (short : ¬ value.TooLong) : spec.normalize value.reread = value := by
  cases value with
  | seconds held =>
    have small : held.toNat < 2 ^ 63 := Nat.not_le.mp short
    have exactly : (Int64.ofInt (held.toNat : Int)).toInt = held.toNat :=
      Int64.toInt_ofInt_of_le (by omega) (by omega)
    have kind : spec.kind = .duration := stores
    simp [Value.reread, KeySpec.normalize, kind, exactly]
  | _ => exact KeySpec.normalize_of_stores stores

-- What a store holds fits its keys, and comes back in the kind of its key.
theorem conforms_of_echoes (sound : store.Sound) (echoes : blueprint.Echoes store)
    (short : store.Writable) : blueprint.sources.Conforms := by
  intro key value spec assigned listed
  obtain ⟨held, found, rfl⟩ := Option.map_eq_some_iff.mp ((echoes key).symm.trans assigned)
  have read := toOption_eq_some_iff.mp found
  have stores := sound.stores_value read listed
  rwa [normalize_reread stores (sound.not_tooLong short read)]

theorem ready_of_echoes (sound : store.Sound) (known : blueprint.Known)
    (echoes : blueprint.Echoes store)
    (short : store.Writable) : blueprint.Ready := by
  apply ready_of_conforms known (conforms_of_echoes sound echoes short)
  rintro key ⟨⟨spec, required, rfl⟩, absent⟩
  obtain ⟨value, read⟩ := sound.value_known (sound.mem_keys (List.mem_of_mem_filter required))
  rw [echoes, read] at absent
  cases absent

-- The text declares the derived keys too, with the values that their inputs give again.
theorem build_of_echoes (sound : store.Sound) (known : blueprint.Known)
    (echoes : blueprint.Echoes store)
    (short : store.Writable) : blueprint.build = .ok blueprint.finished := by
  have ready := ready_of_echoes sound known echoes short
  obtain ⟨controllers, workers, -, -, stored, stored', small, total⟩ := sound.instanceNum
  obtain ⟨directory, name, stored'', stored''', path⟩ := sound.privateKey
  have echo : ∀ {key value}, store.value key = .ok value →
      blueprint.final? key = some value.reread := by
    intro key value read
    rw [echoes, read]
    rfl
  refine build_eq_ok_iff.mpr (built_finished ready
    ⟨controllers, workers, echo (Store.value_of_stored stored),
      echo (Store.value_of_stored stored'), rfl⟩ small ?_
    ⟨directory, name, echo (Store.value_of_stored stored''),
      echo (Store.value_of_stored stored'''), rfl⟩ ?_)
  · exact not_refused_of_agrees (echo total) fun spec => sound.stores_value total
  · exact not_refused_of_agrees (echo path) fun spec => sound.stores_value path

theorem entries_of_echoes (sound : store.Sound) (echoes : blueprint.Echoes store)
    (short : store.Writable) (faithful : store.Faithful) :
    blueprint.finished.entries = store.entries := by
  apply KeyMap.ext_get?
  intro key
  change blueprint.settings.get? key = _
  rw [get?_settings, echoes]
  cases found : store.entries.get? key with
  | none =>
    by_cases derived : Store.isDerived key = true
    · simp [derived]
    · have absent : key ∉ store.keys := by simp [Store.mem_keys_iff, found, derived]
      simp [derived, Store.value_unknown absent, Except.toOption]
  | some setting =>
    obtain ⟨value, category⟩ := setting
    have stored : store.stored? key = some value := by simp [Store.stored?, found]
    rw [sound.plain found, Store.value_of_stored stored]
    cases known : Schema.lookup? key with
    | some spec =>
      obtain ⟨stores, rfl⟩ := sound.fits found known
      simp [settled, known, normalize_reread stores (short key value stored), Except.toOption]
    | none =>
      obtain rfl : category = .other := sound.other found known
      have same : value.reread = value := by
        cases value with
        | seconds held => simpa [known] using faithful.seconds key held stored
        | _ => rfl
      simp [settled, known, same, Except.toOption]

end Blueprint

namespace Store

variable {store : Store}

theorem Sound.exists_snapshot (sound : store.Sound) : ∃ held, store.snapshot = .ok held ∧
    ∀ key value, held.get? key = some value ↔ store.value key = .ok value := by
  obtain ⟨held, read, -, answers⟩ := snapshot_of_readable fun key => sound.value_known
  exact ⟨held, read, answers⟩

theorem tooLong_iff (sound : store.Sound) {held : KeyMap Value}
    (answers : ∀ key value, held.get? key = some value ↔ store.value key = .ok value)
    {key : String} : (∃ value, held.get? key = some value ∧ value.TooLong) ↔
      ∃ seconds, store.stored? key = some (.seconds seconds) ∧ 2 ^ 63 ≤ seconds.toNat := by
  constructor
  · rintro ⟨value, found, long⟩
    cases value with
    | seconds held => exact ⟨held, sound.value_seconds_iff.mp ((answers _ _).mp found), long⟩
    | _ => exact long.elim
  · rintro ⟨seconds, stored, long⟩
    exact ⟨_, (answers _ _).mpr (value_of_stored stored), long⟩

/-- The written form fails for one reason only. -/
theorem Sound.tomlText_eq_error_iff (sound : store.Sound) {fault : ConfigError} :
    store.tomlText = .error fault ↔ ∃ key seconds,
      store.stored? key = some (.seconds seconds) ∧ 2 ^ 63 ≤ seconds.toNat ∧
      (∀ other more, store.stored? other = some (.seconds more) → other < key →
        more.toNat < 2 ^ 63) ∧
      fault = .invalidValue key .tooLongForToml := by
  obtain ⟨held, read, answers⟩ := sound.exists_snapshot
  rw [Store.tomlText_eq_error_iff, toTable_eq_error_iff read]
  constructor
  · rintro ⟨key, value, found, long, first, rfl⟩
    obtain ⟨seconds, stored, large⟩ := (tooLong_iff sound answers).mp ⟨value, found, long⟩
    refine ⟨key, seconds, stored, large, ?_, rfl⟩
    intro other more stored' less
    exact Nat.not_le.mp (first other _ ((answers _ _).mpr (value_of_stored stored')) less)
  · rintro ⟨key, seconds, stored, large, first, rfl⟩
    obtain ⟨value, found, long⟩ := (tooLong_iff sound answers).mpr ⟨seconds, stored, large⟩
    refine ⟨key, value, found, long, ?_, rfl⟩
    intro other value found' less long'
    obtain ⟨more, stored', large'⟩ := (tooLong_iff sound answers).mp ⟨value, found', long'⟩
    exact absurd large' (Nat.not_le.mpr (first other more stored' less))

theorem Sound.exists_text (sound : store.Sound) (short : store.Writable) :
    ∃ text, store.tomlText = .ok text := by
  rcases ok_or_error store.tomlText with printed | ⟨fault, failed⟩
  · exact printed
  · obtain ⟨key, seconds, stored, long, -⟩ := sound.tomlText_eq_error_iff.mp failed
    exact absurd long (short key _ stored)

section Printed

variable {text source : String} (sound : store.Sound) (printed : store.tomlText = .ok text)
include sound printed

theorem writable_of_printed : store.Writable := by
  intro key value stored long
  cases value with
  | seconds held =>
    obtain ⟨table, read, answers⟩ := sound.exists_snapshot
    have short := ((tomlText_eq_ok_iff read).mp printed).1
    exact short _ (KeyMap.mem_pairs_iff.mpr ((answers _ _).mpr (value_of_stored stored))) long
  | _ => exact long.elim

/-- A text that is accepted gives back the value of each key, but for a setting in the place of the
reserved list. -/
theorem value?_of_printed (holds : Toml.Holds source text) {declaration : Declaration}
    (accepted : Declaration.ofToml source = .ok declaration) (key : String) :
    declaration.value? key =
      if key = Declaration.disabledKey ∧ store.value key ≠ .ok .null then none
      else (store.value key).toOption.map Value.reread := by
  obtain ⟨held, read, answers⟩ := sound.exists_snapshot
  obtain ⟨-, rfl⟩ := (tomlText_eq_ok_iff read).mp printed
  rw [ofToml_printed held holds, ofTable_exportTable] at accepted
  obtain ⟨-, rfl⟩ := accepted
  have same : held.get? key = (store.value key).toOption := by
    apply Option.ext
    intro value
    rw [answers, toOption_eq_some_iff]
  have null : held.get? key = some .null ↔ store.value key = .ok .null := answers key .null
  rw [value?_exported, same, ← same]
  simp only [ne_eq, null]

/-- The text is accepted unless a setting stands in the place of the reserved list. -/
theorem exists_ofToml_iff (holds : Toml.Holds source text) :
    (∃ declaration, Declaration.ofToml source = .ok declaration) ↔
      store.stored? Declaration.disabledKey = none ∨ ∃ key, store.value key = .ok .null := by
  obtain ⟨held, read, answers⟩ := sound.exists_snapshot
  obtain ⟨-, rfl⟩ := (tomlText_eq_ok_iff read).mp printed
  have hidden : hiddenKeys held ≠ [] ↔ ∃ key, store.value key = .ok .null := by
    simp only [ne_eq, List.eq_nil_iff_forall_not_mem, mem_hiddenKeys_iff, answers, not_forall,
      not_not]
  have unset : held.get? Declaration.disabledKey = none ↔
      store.stored? Declaration.disabledKey = none := by
    simp only [Option.eq_none_iff_forall_ne_some, ne_eq, answers, value_eq_ok_iff
      (show isDerived Declaration.disabledKey = false from rfl)]
  simp only [ofToml_printed held holds, ofTable_exportTable, hidden, unset]
  constructor
  · rintro ⟨_, listed, -⟩
    exact listed.symm
  · exact fun listed => ⟨_, listed.symm, rfl⟩

/-- Without a setting in that place, the text gives back every value. -/
theorem exists_echo_of_reserved (holds : Toml.Holds source text)
    (reserved : ∀ value, store.stored? Declaration.disabledKey = some value → value = .null) :
    ∃ declaration, Declaration.ofToml source = .ok declaration ∧
      ∀ key, declaration.value? key = (store.value key).toOption.map Value.reread := by
  have readable : store.stored? Declaration.disabledKey = none ∨
      ∃ key, store.value key = .ok .null := by
    cases stored : store.stored? Declaration.disabledKey with
    | none => exact Or.inl rfl
    | some value =>
      obtain rfl := reserved value stored
      exact Or.inr ⟨_, value_of_stored stored⟩
  obtain ⟨declaration, accepted⟩ := (exists_ofToml_iff sound printed holds).mpr readable
  refine ⟨declaration, accepted, fun key => ?_⟩
  rw [value?_of_printed sound printed holds accepted]
  by_cases lost : key = Declaration.disabledKey ∧ store.value key ≠ .ok .null
  · obtain ⟨rfl, visible⟩ := lost
    cases read : store.value Declaration.disabledKey with
    | error fault => simp [Except.toOption]
    | ok value =>
      rw [reserved value ((value_eq_ok_iff rfl).mp read)] at read
      exact absurd read visible
  · rw [if_neg lost]

end Printed

theorem value_eq_of_snapshot {left right : Store} (first : left.Sound) (second : right.Sound)
    {snapshot : KeyMap Value} (read : left.snapshot = .ok snapshot)
    (read' : right.snapshot = .ok snapshot) (key : String) (value : Value) :
    left.value key = .ok value ↔ right.value key = .ok value := by
  obtain ⟨held, made, answers⟩ := first.exists_snapshot
  obtain ⟨held', made', answers'⟩ := second.exists_snapshot
  cases made.symm.trans read
  cases made'.symm.trans read'
  rw [← answers, answers']

end Store

namespace Blueprint

variable {store : Store}

theorem final?_of_base (declaration : Declaration) (registry : Registry) (key : String) :
    (Blueprint.mk declaration registry [] []).final? key = declaration.value? key := by
  simp [final?, sources]

theorem exists_echo (sound : store.Sound) {text source : String} (printed : store.tomlText = .ok text)
    (holds : Toml.Holds source text) (faithful : store.Faithful) :
    ∃ declaration, Declaration.ofToml source = .ok declaration ∧
      ∀ key, declaration.value? key = (store.value key).toOption.map Value.reread :=
  Store.exists_echo_of_reserved sound printed holds faithful.reserved

theorem tame_sources {profiles : List String} {overlays : List Declaration}
    (tame : ∀ overlay ∈ overlays, overlay.Tame) :
    ({ standard with profiles, overlays } : Blueprint).sources.Tame := by
  intro pair assigned
  rcases mem_sources_iff.mp assigned with base | ⟨name, -, profile, found, own⟩ | ⟨overlay, added, own⟩
  · exact Declaration.manifest_fitting.tame pair base
  · exact (Declaration.standard_profiles _ (KeyMap.mem_pairs_iff.mpr found)).1.tame pair own
  · exact tame overlay added pair own

/-- A store that is built of such assignments loses nothing in its TOML form. -/
theorem faithful_of_tame {blueprint : Blueprint} {store : Store} (built : blueprint.Built store)
    (tame : blueprint.sources.Tame) : store.Faithful := by
  have source : ∀ key value, store.stored? key = some value → Schema.lookup? key = none →
      (key, value) ∈ blueprint.sources.assignments := by
    intro key value stored unlisted
    obtain ⟨assigned, member, same⟩ := built.exists_assigned stored
    simp only [settled, unlisted] at same
    exact same ▸ member
  refine ⟨?_, ?_⟩
  · intro key seconds stored
    by_contra unlisted
    have outside : Schema.lookup? key = none := by simpa using unlisted
    exact unlisted ((tame _ (source key _ stored outside)).1 seconds rfl)
  · intro value stored
    exact (tame _ (source _ value stored rfl)).2 rfl

instance : (value : Value) → Decidable value.TooLong
  | .seconds held => inferInstanceAs (Decidable (2 ^ 63 ≤ held.toNat))
  | .null | .boolean _ | .integer _ | .text _ => .isFalse id

theorem manifest_brief : ∀ pair ∈ Declaration.manifest.assignments,
    ¬ (settled pair.1 pair.2).value.TooLong := by
  decide +kernel

theorem profiles_brief : ∀ profile ∈ Registry.standard.profiles.pairs,
    ∀ pair ∈ profile.2.overrides.assignments, ¬ (settled pair.1 pair.2).value.TooLong := by
  decide +kernel

theorem exists_text_stack (profiles : List String)
    (known : ∀ name ∈ profiles, name ∈ Registry.standard.names) :
    ∃ store text, (stack profiles).build = .ok store ∧ store.tomlText = .ok text := by
  obtain ⟨store, success⟩ := exists_build_stack profiles known
  have built := build_eq_ok_iff.mp success
  have short : store.Writable := by
    intro key value stored
    obtain ⟨assigned, member, same⟩ := built.exists_assigned stored
    exact same ▸ stack_induction manifest_brief profiles_brief profiles _ member
  obtain ⟨text, printed⟩ := (Store.sound_of_built built).exists_text short
  exact ⟨store, text, success, printed⟩

section Reloaded

variable {text : String} (sound : store.Sound) (printed : store.tomlText = .ok text)
  (registry : Registry)
include sound printed

theorem reload_of_faithful (faithful : store.Faithful) : ∃ declaration reloaded snapshot,
    Declaration.ofToml text = .ok declaration ∧
      (Blueprint.mk declaration registry [] []).build = .ok reloaded ∧
      reloaded.snapshot = .ok snapshot ∧ store.snapshot = .ok snapshot := by
  obtain ⟨declaration, accepted, echo⟩ := exists_echo sound printed (Or.inl rfl) faithful
  obtain ⟨held, read, -⟩ := sound.exists_snapshot
  have known : (Blueprint.mk declaration registry [] []).Known := by
    intro name selected
    cases selected
  have echoes : (Blueprint.mk declaration registry [] []).Echoes store :=
    fun key => (final?_of_base declaration registry key).trans (echo key)
  have short := Store.writable_of_printed sound printed
  refine ⟨declaration, _, held, accepted, build_of_echoes sound known echoes short, ?_, read⟩
  rw [← read]
  exact Store.snapshot_congr (entries_of_echoes sound echoes short faithful)

-- A lost value would have to come back from the text, which gives a plain integer or nothing.
theorem faithful_of_reload {declaration : Declaration} {reloaded : Store} {snapshot : KeyMap Value}
    (accepted : Declaration.ofToml text = .ok declaration)
    (rebuilt : (Blueprint.mk declaration registry [] []).build = .ok reloaded)
    (read : reloaded.snapshot = .ok snapshot) (read' : store.snapshot = .ok snapshot) :
    store.Faithful := by
  have built := build_eq_ok_iff.mp rebuilt
  have kept : ∀ key value, Store.isDerived key = false → store.stored? key = some value →
      ∃ assigned, declaration.value? key = some assigned ∧ (settled key assigned).value = value := by
    intro key value plain stored
    have agree := Store.value_eq_of_snapshot (Store.sound_of_built built) sound read read' key value
    rw [Store.value_eq_ok_iff plain, Store.value_eq_ok_iff plain] at agree
    have again := agree.mpr stored
    rw [Store.stored?, built.entries, plain, final?_of_base] at again
    simpa using again
  have assigned := Store.value?_of_printed sound printed (Or.inl rfl) accepted
  refine ⟨?_, ?_⟩
  · intro key seconds stored
    by_contra unlisted
    have outside : Schema.lookup? key = none := by simpa using unlisted
    have plain : Store.isDerived key = false := by
      obtain ⟨setting, found, -⟩ := Option.map_eq_some_iff.mp stored
      exact sound.plain found
    obtain ⟨value, declared, same⟩ := kept key _ plain stored
    rw [assigned, Store.value_of_stored stored] at declared
    split at declared
    · cases declared
    · cases declared
      simp [settled, outside, Value.reread] at same
  · intro value stored
    by_contra visible
    obtain ⟨value', declared, -⟩ := kept _ value rfl stored
    rw [assigned, Store.value_of_stored stored, if_pos ⟨rfl, by simp [visible]⟩] at declared
    cases declared

end Reloaded

/-- A store is written as TOML unless some number of seconds is too large, and then that of the
first such key is reported. Building on the text gives back all values, except where a plain integer
stands for seconds outside the schema or the reserved list is in the place of a setting. -/
theorem toml_reload (blueprint : Blueprint) (store : Store)
    (success : blueprint.build = .ok store) :
    (∀ fault, store.tomlText = .error fault ↔ ∃ key seconds,
      store.stored? key = some (.seconds seconds) ∧ 2 ^ 63 ≤ seconds.toNat ∧
      (∀ other more, store.stored? other = some (.seconds more) → other < key →
        more.toNat < 2 ^ 63) ∧
      fault = .invalidValue key .tooLongForToml) ∧
    ∀ text, store.tomlText = .ok text → ∀ registry,
      ((∃ declaration reloaded snapshot, Declaration.ofToml text = .ok declaration ∧
        (Blueprint.mk declaration registry [] []).build = .ok reloaded ∧
        reloaded.snapshot = .ok snapshot ∧ store.snapshot = .ok snapshot) ↔
      (∀ key seconds, store.stored? key = some (.seconds seconds) →
        (Schema.lookup? key).isSome) ∧
      ∀ value, store.stored? "disabled" = some value → value = .null) := by
  have sound := Store.sound_of_built (build_eq_ok_iff.mp success)
  refine ⟨fun fault => sound.tomlText_eq_error_iff, ?_⟩
  intro text printed registry
  constructor
  · rintro ⟨declaration, reloaded, snapshot, accepted, rebuilt, read, read'⟩
    have faithful := faithful_of_reload sound printed registry accepted rebuilt read read'
    exact ⟨faithful.seconds, faithful.reserved⟩
  · rintro ⟨seconds, reserved⟩
    exact reload_of_faithful sound printed registry ⟨seconds, reserved⟩

theorem toml_reload_california : ∃ store text declaration reloaded snapshot,
    (stack ["us-west-1"]).build = .ok store ∧ store.tomlText = .ok text ∧
    Declaration.ofToml text = .ok declaration ∧
    (Blueprint.mk declaration .empty [] []).build = .ok reloaded ∧
    reloaded.snapshot = .ok snapshot ∧ store.snapshot = .ok snapshot := by
  obtain ⟨store, text, success, printed⟩ := exists_text_stack ["us-west-1"] (by decide)
  have faithful := faithful_of_tame (build_eq_ok_iff.mp success) (stack_fitting _).tame
  obtain ⟨declaration, reloaded, snapshot, reload⟩ :=
    ((toml_reload _ store success).2 text printed .empty).mpr
      ⟨faithful.seconds, faithful.reserved⟩
  exact ⟨store, text, declaration, reloaded, snapshot, success, printed, reload⟩

end Blueprint

end LaunchConfig
