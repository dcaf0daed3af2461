import LaunchConfig.Proofs.BuildOutcome

/-!
Reading a built store. All readers agree on which keys there are and what they hold, because of one
invariant of the stored settings: each fits its key, none is missing, none is derived, and the
instances can be counted.
-/
namespace LaunchConfig

namespace Store

/-- What building makes sure of. -/
structure Sound (store : Store) : Prop where
  plain : ∀ {key setting}, store.entries.get? key = some setting → isDerived key = false
  fits : ∀ {key setting spec}, store.entries.get? key = some setting →
    Schema.lookup? key = some spec → spec.Stores setting.value ∧ setting.category = spec.category
  other : ∀ {key setting}, store.entries.get? key = some setting →
    Schema.lookup? key = none → setting.category = .other
  complete : ∀ {key spec}, Schema.lookup? key = some spec → spec.derived = false →
    ∃ setting, store.entries.get? key = some setting
  bounded : ∀ {controllers workers : Int64},
    store.stored? "CONTROLLER_NUM" = some (.integer controllers) →
    store.stored? "WORKER_NUM" = some (.integer workers) →
    controllers.toInt + workers.toInt < 2 ^ 63

theorem sound_of_built {blueprint : Blueprint} {store : Store}
    (built : blueprint.Built store) : store.Sound := by
  have held : ∀ {key setting}, store.entries.get? key = some setting → isDerived key = false ∧
      ∃ value, blueprint.final? key = some value ∧ Blueprint.settled key value = setting := by
    intro key setting found
    rw [built.entries] at found
    by_cases derived : isDerived key = true
    · simp [derived] at found
    · simpa [derived] using found
  -- A required key is never absent, and the value that counts for it fits.
  have stored : ∀ {key spec}, Schema.lookup? key = some spec → spec.derived = false →
      ∃ value, blueprint.final? key = some value ∧ spec.Stores (spec.normalize value) ∧
        store.entries.get? key = some ⟨spec.normalize value, spec.category⟩ := by
    intro key spec listed plain
    have same : store.entries = blueprint.settings :=
      congrArg Store.entries (Blueprint.eq_finished built)
    rw [same]
    exact built.ready.stored key listed plain
  refine ⟨fun found => (held found).1, ?_, ?_, ?_, ?_⟩
  · intro key setting spec found listed
    have plain : spec.derived = false := by
      obtain ⟨inTable, rfl⟩ := Schema.lookup?_eq_some_iff.mp listed
      rw [Schema.derived_eq_isDerived spec inTable]
      exact (held found).1
    obtain ⟨value, -, stores, found'⟩ := stored listed plain
    cases found.symm.trans found'
    exact ⟨stores, rfl⟩
  · intro key setting found unlisted
    obtain ⟨-, value, -, rfl⟩ := held found
    simp [Blueprint.settled, unlisted]
  · intro key spec listed plain
    obtain ⟨value, -, -, found⟩ := stored listed plain
    exact ⟨_, found⟩
  · intro controllers workers first second
    obtain ⟨total, ⟨controllers', workers', assigned, assigned', rfl⟩, small, -⟩ := built.total
    have kept : ∀ {key : String} {n : Int64}, isDerived key = false →
        (∃ spec, Schema.lookup? key = some spec ∧ spec.kind = .count) →
        blueprint.final? key = some (.integer n) → store.stored? key = some (.integer n) := by
      rintro key n plain ⟨spec, listed, kind⟩ assigned
      simp [stored?, built.entries, plain, assigned, Blueprint.settled, listed,
        KeySpec.normalize, kind]
    cases first.symm.trans (kept rfl ⟨_, rfl, rfl⟩ assigned)
    cases second.symm.trans (kept rfl ⟨_, rfl, rfl⟩ assigned')
    exact small

theorem isDerived_iff {key : String} : isDerived key = true ↔
    key = Derivation.instanceNum.key ∨ key = Derivation.privateKey.key := by
  unfold isDerived
  rw [Option.isSome_iff_exists]
  simp only [Derivation.lookup?_eq_some_iff]
  constructor
  · rintro ⟨derivation, same⟩
    cases derivation with
    | instanceNum => exact Or.inl same
    | privateKey => exact Or.inr same
  · rintro (same | same)
    · exact ⟨_, same⟩
    · exact ⟨_, same⟩

theorem mem_keys_iff {store : Store} {key : String} :
    key ∈ store.keys ↔ (store.entries.get? key).isSome ∨ isDerived key = true := by
  rw [keys, KeyMap.mem_keys_iff, isDerived_iff]
  simp only [Derivation.all, List.foldl_cons, List.foldl_nil, KeyMap.get?_insert, KeyMap.get?_map]
  by_cases path : key = Derivation.privateKey.key
  · simp [path]
  · by_cases count : key = Derivation.instanceNum.key
    · simp [count]
    · simp [path, count]

theorem not_mem_keys {store : Store} {key : String} (absent : key ∉ store.keys) :
    store.entries.get? key = none ∧ Derivation.lookup? key = none := by
  rw [mem_keys_iff, not_or] at absent
  exact ⟨by simpa using absent.1, by simpa [isDerived] using absent.2⟩

theorem contains_iff {store : Store} {key : String} :
    store.contains key = true ↔ key ∈ store.keys := by
  rw [mem_keys_iff, contains, KeyMap.contains, Bool.or_eq_true]

theorem value_unknown {store : Store} {key : String} (absent : key ∉ store.keys) :
    store.value key = .error (.unknownKey key) := by
  obtain ⟨noEntry, noDerivation⟩ := not_mem_keys absent
  simp [value, stored?, noEntry, noDerivation]

theorem categoryOf_unknown {store : Store} {key : String} (absent : key ∉ store.keys) :
    store.categoryOf key = .error (.unknownKey key) := by
  obtain ⟨noEntry, noDerivation⟩ := not_mem_keys absent
  simp [categoryOf, noEntry, noDerivation]

theorem categoryOf_known {store : Store} {key : String} (present : key ∈ store.keys) :
    ∃ category, store.categoryOf key = .ok category := by
  unfold categoryOf
  cases found : store.entries.get? key with
  | some setting => exact ⟨setting.category, rfl⟩
  | none =>
    have derived : isDerived key = true := by
      simpa [mem_keys_iff, found] using present
    obtain ⟨derivation, known⟩ := Option.isSome_iff_exists.mp derived
    obtain ⟨spec, listed, -⟩ := Schema.lookup?_derivation derivation
    obtain rfl := Derivation.lookup?_eq_some_iff.mp known
    exact ⟨spec.category, by simp [known, listed]⟩

theorem value_of_stored {store : Store} {key : String} {value : Value}
    (stored : store.stored? key = some value) : store.value key = .ok value := by
  simp [Store.value, stored]

theorem value_eq_ok_iff {store : Store} {key : String} (plain : isDerived key = false)
    {value : Value} : store.value key = .ok value ↔ store.stored? key = some value := by
  have underived : Derivation.lookup? key = none := by simpa [isDerived] using plain
  unfold Store.value
  cases store.stored? key <;> simp [underived]

theorem value_derived {store : Store} (sound : store.Sound) (derivation : Derivation) :
    store.value derivation.key = derivation.compute store.stored? := by
  have unstored : store.stored? derivation.key = none := by
    cases found : store.entries.get? derivation.key with
    | none => simp [stored?, found]
    | some setting =>
      have plain := sound.plain found
      cases derivation <;> cases plain
  simp [value, unstored, Derivation.lookup?_eq_some_iff.mpr rfl]

theorem Sound.stored {store : Store} (sound : store.Sound) (key : String) {spec : KeySpec}
    (listed : Schema.lookup? key = some spec) (plain : spec.derived = false) :
    ∃ value, store.stored? key = some value ∧ spec.Stores value := by
  obtain ⟨setting, found⟩ := sound.complete listed plain
  exact ⟨setting.value, by simp [stored?, found], (sound.fits found listed).1⟩

theorem Sound.stored_count {store : Store} (sound : store.Sound) (key : String) {spec : KeySpec}
    (listed : Schema.lookup? key = some spec) (plain : spec.derived = false)
    (kind : spec.kind = .count) (held : spec.nullable = false) :
    ∃ n : Int64, 0 ≤ n.toInt ∧ store.stored? key = some (.integer n) := by
  obtain ⟨value, found, stores⟩ := sound.stored key listed plain
  cases value with
  | integer n => exact ⟨n, stores.2, found⟩
  | _ => simp [KeySpec.Stores, kind, held] at stores

theorem Sound.stored_text {store : Store} (sound : store.Sound) (key : String) {spec : KeySpec}
    (listed : Schema.lookup? key = some spec) (plain : spec.derived = false)
    (kind : spec.kind = .text) (held : spec.nullable = false) :
    ∃ words : String, store.stored? key = some (.text words) := by
  obtain ⟨value, found, stores⟩ := sound.stored key listed plain
  cases value with
  | text words => exact ⟨words, found⟩
  | _ => simp [KeySpec.Stores, kind, held] at stores

theorem Sound.instanceNum {store : Store} (sound : store.Sound) :
    ∃ controllers workers : Int64, 0 ≤ controllers.toInt ∧ 0 ≤ workers.toInt ∧
      store.stored? "CONTROLLER_NUM" = some (.integer controllers) ∧
      store.stored? "WORKER_NUM" = some (.integer workers) ∧
      controllers.toInt + workers.toInt < 2 ^ 63 ∧
      store.value "INSTANCE_NUM" =
        .ok (.integer (Int64.ofInt (controllers.toInt + workers.toInt))) := by
  obtain ⟨controllers, first, stored⟩ := sound.stored_count "CONTROLLER_NUM" rfl rfl rfl rfl
  obtain ⟨workers, second, stored'⟩ := sound.stored_count "WORKER_NUM" rfl rfl rfl rfl
  have small := sound.bounded stored stored'
  refine ⟨controllers, workers, first, second, stored, stored', small, ?_⟩
  exact (value_derived sound .instanceNum).trans
    ((Derivation.compute_instanceNum stored stored' ⟨first, second⟩).trans (if_pos small))

theorem Sound.privateKey {store : Store} (sound : store.Sound) :
    ∃ directory name : String, store.stored? "PRIVATE_KEY_DIR" = some (.text directory) ∧
      store.stored? "KEY_NAME" = some (.text name) ∧
      store.value "PRIVATE_KEY" = .ok (.text (directory ++ name ++ ".pem")) := by
  obtain ⟨directory, stored⟩ := sound.stored_text "PRIVATE_KEY_DIR" rfl rfl rfl rfl
  obtain ⟨name, stored'⟩ := sound.stored_text "KEY_NAME" rfl rfl rfl rfl
  exact ⟨directory, name, stored, stored', (value_derived sound .privateKey).trans
    (Derivation.compute_privateKey stored stored')⟩

theorem Sound.mem_keys {store : Store} (sound : store.Sound) {spec : KeySpec}
    (inTable : spec ∈ Schema.table) : spec.key ∈ store.keys := by
  cases derived : spec.derived with
  | true =>
    rw [Schema.derived_eq_isDerived spec inTable] at derived
    exact mem_keys_iff.mpr (Or.inr derived)
  | false =>
    obtain ⟨setting, stored⟩ :=
      sound.complete (Schema.lookup?_eq_some_iff.mpr ⟨inTable, rfl⟩) derived
    exact mem_keys_iff.mpr (Or.inl (by simp [stored]))

theorem Sound.value_known {store : Store} (sound : store.Sound) {key : String}
    (present : key ∈ store.keys) : ∃ value, store.value key = .ok value := by
  rcases mem_keys_iff.mp present with stored | derived
  · obtain ⟨setting, found⟩ := Option.isSome_iff_exists.mp stored
    exact ⟨setting.value, value_of_stored (by simp [stored?, found])⟩
  · rcases isDerived_iff.mp derived with rfl | rfl
    · obtain ⟨_, _, _, _, _, _, _, computed⟩ := sound.instanceNum
      exact ⟨_, computed⟩
    · obtain ⟨_, _, _, _, computed⟩ := sound.privateKey
      exact ⟨_, computed⟩

/-- When every key can be read, the snapshot is made, and it answers as the store does. -/
theorem snapshot_of_readable {store : Store}
    (readable : ∀ key ∈ store.keys, ∃ value, store.value key = .ok value) :
    ∃ snapshot, store.snapshot = .ok snapshot ∧ snapshot.keys = store.keys ∧
      ∀ key value, snapshot.get? key = some value ↔ store.value key = .ok value := by
  -- Every key can be read, so the walk over the keys is a plain map.
  have reads : ∀ key ∈ store.keys, (do let value ← store.value key; return (key, value)) =
      (.ok (key, (store.value key).toOption.getD .null) : Except ConfigError (String × Value)) := by
    intro key present
    obtain ⟨value, ok⟩ := readable key present
    rw [ok]
    rfl
  have ascending : store.keys.Pairwise (· < ·) := KeyMap.keys_ascending _
  have answers : ∀ key value, (KeyMap.ofList (store.keys.map fun key =>
      (key, (store.value key).toOption.getD .null))).get? key = some value ↔
        store.value key = .ok value := by
    intro key value
    rw [KeyMap.get?_ofList_keyed (fun key => (store.value key).toOption.getD .null)
      (ascending.imp fun less => ne_of_lt less)]
    by_cases present : key ∈ store.keys
    · obtain ⟨held, ok⟩ := readable key present
      simp [present, ok, Except.toOption]
    · simp [present, value_unknown present]
  refine ⟨_, by rw [snapshot, mapM_eq_map reads, ok_bind]; rfl, ?_, answers⟩
  apply keys_ext (KeyMap.keys_ascending _) ascending
  intro key
  rw [KeyMap.mem_keys_iff, Option.isSome_iff_exists]
  simp only [answers]
  constructor
  · rintro ⟨value, ok⟩
    by_contra absent
    cases (value_unknown absent).symm.trans ok
  · exact readable key

/-- The profiles that a store was made with do not show in its values. -/
theorem snapshot_congr {left right : Store} (same : left.entries = right.entries) :
    left.snapshot = right.snapshot := by
  obtain ⟨entries, profiles⟩ := left
  obtain ⟨entries', profiles'⟩ := right
  cases same
  rfl

theorem entriesIn_ascending (store : Store) (category : Category) :
    Ascending (store.entriesIn category) :=
  List.Pairwise.sublist List.filter_sublist store.entries.ascending

theorem mem_entriesIn_iff {store : Store} {category : Category} {key : String} {setting : Setting} :
    (key, setting) ∈ store.entriesIn category ↔
      store.entries.get? key = some setting ∧ store.categoryOf key = .ok category := by
  rw [entriesIn, List.mem_filter, KeyMap.mem_pairs_iff]
  refine and_congr_right fun found => ?_
  simp [categoryOf, found]

theorem perm_flatMap_entriesIn (store : Store) :
    (Category.all.flatMap store.entriesIn).Perm store.entries.pairs := by
  have distinct : ∀ {pairs : List (String × Setting)}, Ascending pairs → pairs.Nodup :=
    fun sorted => List.Nodup.of_map Prod.fst (keys_nodup sorted)
  rw [List.perm_ext_iff_of_nodup _ (distinct store.entries.ascending)]
  · rintro ⟨key, setting⟩
    rw [List.mem_flatMap]
    constructor
    · rintro ⟨category, -, inside⟩
      exact List.mem_of_mem_filter inside
    · intro inside
      refine ⟨setting.category, ?_, List.mem_filter.mpr ⟨inside, by simp⟩⟩
      cases setting.category <;> decide
  -- No setting stands in two listings, because it has one category.
  · refine List.nodup_flatMap.mpr ⟨fun category _ => distinct (entriesIn_ascending store category), ?_⟩
    refine (show Category.all.Nodup by decide).imp fun differ => ?_
    intro entry first second
    simp only [entriesIn, List.mem_filter, decide_eq_true_eq] at first second
    exact differ (first.2.symm.trans second.2)

end Store

end LaunchConfig
