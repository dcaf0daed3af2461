import LaunchConfig.Proofs.Standard
import LaunchConfig.Proofs.Store

/-!
The readers of a built store agree with each other. Keys, values, categories and the listings by
category are read in separate ways, from the stored settings and from the derivations; for every
key they give the same account of the store.
-/
namespace LaunchConfig

namespace Store

/-- One account of the store by all its readers. -/
structure Coherent (store : Store) : Prop where
  keys_ascending : store.keys.Pairwise (· < ·)
  keys_perm : store.keys.Perm (store.entries.keys ++ ["INSTANCE_NUM", "PRIVATE_KEY"])
  schema_keys : ∀ spec ∈ Schema.table, spec.key ∈ store.keys
  derived : ∀ spec ∈ Schema.table, spec.derived = true → store.entries.get? spec.key = none
  contains_iff : ∀ key, store.contains key = true ↔ key ∈ store.keys
  value_iff : ∀ key, (∃ value, store.value key = .ok value) ↔ key ∈ store.keys
  category_iff : ∀ key, (∃ category, store.categoryOf key = .ok category) ↔ key ∈ store.keys
  unknown : ∀ key, key ∉ store.keys → store.value key = .error (.unknownKey key) ∧
    store.categoryOf key = .error (.unknownKey key)
  snapshot : ∃ snapshot, store.snapshot = .ok snapshot ∧ snapshot.keys = store.keys ∧
    ∀ key value, snapshot.get? key = some value ↔ store.value key = .ok value
  fits : ∀ key spec value, Schema.lookup? key = some spec → store.stored? key = some value →
    spec.check value = .ok () ∧ spec.normalize value = value
  listing_ascending : ∀ category, Ascending (store.entriesIn category)
  listing_iff : ∀ category key setting, (key, setting) ∈ store.entriesIn category ↔
    store.entries.get? key = some setting ∧ store.categoryOf key = .ok category
  listings_perm : (Category.all.flatMap store.entriesIn).Perm store.entries.pairs
  total : ∃ (controllers workers : Int64) (total : UInt64),
    store.stored? "CONTROLLER_NUM" = some (.integer controllers) ∧
    store.stored? "WORKER_NUM" = some (.integer workers) ∧
    store.total = .ok total ∧ (total.toNat : Int) = controllers.toInt + workers.toInt
  path : ∃ directory name : String, store.stored? "PRIVATE_KEY_DIR" = some (.text directory) ∧
    store.stored? "KEY_NAME" = some (.text name) ∧
    store.privateKeyPath = .ok (directory ++ name ++ ".pem")

theorem Sound.keys_perm {store : Store} (sound : store.Sound) :
    store.keys.Perm (store.entries.keys ++ ["INSTANCE_NUM", "PRIVATE_KEY"]) := by
  -- Both lists have each key once, since no stored key is derived.
  have ascending : store.keys.Pairwise (· < ·) := KeyMap.keys_ascending _
  rw [List.perm_ext_iff_of_nodup (ascending.imp fun less => ne_of_lt less)]
  · intro key
    rw [mem_keys_iff, isDerived_iff, List.mem_append, KeyMap.mem_keys_iff]
    simp [Derivation.key]
  · refine List.nodup_append.mpr ⟨keys_nodup store.entries.ascending, by decide, ?_⟩
    rintro key stored _ derived rfl
    obtain ⟨setting, found⟩ := Option.isSome_iff_exists.mp (KeyMap.mem_keys_iff.mp stored)
    have marked : isDerived key = true := isDerived_iff.mpr (by simpa [Derivation.key] using derived)
    cases marked.symm.trans (sound.plain found)

theorem Sound.total_eq {store : Store} (sound : store.Sound) :
    ∃ (controllers workers : Int64) (total : UInt64),
      store.stored? "CONTROLLER_NUM" = some (.integer controllers) ∧
      store.stored? "WORKER_NUM" = some (.integer workers) ∧
      store.total = .ok total ∧ (total.toNat : Int) = controllers.toInt + workers.toInt := by
  obtain ⟨controllers, workers, first, second, stored, stored', small, computed⟩ :=
    sound.instanceNum
  have exactly : (Int64.ofInt (controllers.toInt + workers.toInt)).toInt =
      controllers.toInt + workers.toInt :=
    Int64.toInt_ofInt_of_le (by omega) small
  have inside : (controllers.toInt + workers.toInt).toNat < 2 ^ 64 := by omega
  refine ⟨controllers, workers, UInt64.ofNat (controllers.toInt + workers.toInt).toNat, stored,
    stored', ?_, ?_⟩
  · have fits : 0 ≤ controllers.toInt + workers.toInt ∧
        controllers.toInt + workers.toInt < Nat.pow 2 64 := by
      rw [Nat.pow_eq]
      omega
    simp only [total, get, Derivation.key, computed, ok_bind, Reader.read, Reader.u64,
      Reader.unsigned, exactly, fits, and_self, if_true]
    rfl
  · rw [UInt64.toNat_ofNat_of_lt' inside]
    omega

theorem Sound.path_eq {store : Store} (sound : store.Sound) :
    ∃ directory name : String, store.stored? "PRIVATE_KEY_DIR" = some (.text directory) ∧
      store.stored? "KEY_NAME" = some (.text name) ∧
      store.privateKeyPath = .ok (directory ++ name ++ ".pem") := by
  obtain ⟨directory, name, stored, stored', computed⟩ := sound.privateKey
  refine ⟨directory, name, stored, stored', ?_⟩
  simp only [privateKeyPath, get, Derivation.key, computed, ok_bind]
  rfl

theorem Sound.coherent {store : Store} (sound : store.Sound) : store.Coherent where
  keys_ascending := KeyMap.keys_ascending _
  keys_perm := sound.keys_perm
  schema_keys := fun spec => sound.mem_keys
  derived := by
    intro spec listed derived
    cases found : store.entries.get? spec.key with
    | none => rfl
    | some setting =>
      rw [Schema.derived_eq_isDerived spec listed] at derived
      cases derived.symm.trans (sound.plain found)
  contains_iff := fun key => Store.contains_iff
  value_iff := by
    intro key
    constructor
    · rintro ⟨value, ok⟩
      by_contra absent
      cases (value_unknown absent).symm.trans ok
    · exact sound.value_known
  category_iff := by
    intro key
    constructor
    · rintro ⟨category, ok⟩
      by_contra absent
      cases (categoryOf_unknown absent).symm.trans ok
    · exact categoryOf_known
  unknown := fun key absent => ⟨value_unknown absent, categoryOf_unknown absent⟩
  snapshot := snapshot_of_readable fun key => sound.value_known
  fits := by
    intro key spec value listed stored
    obtain ⟨setting, found, rfl⟩ := Option.map_eq_some_iff.mp stored
    have stores := (sound.fits found listed).1
    exact ⟨(spec.check_eq_ok_iff _).mpr stores, KeySpec.normalize_of_stores stores⟩
  listing_ascending := entriesIn_ascending store
  listing_iff := fun category key setting => mem_entriesIn_iff
  listings_perm := perm_flatMap_entriesIn store
  total := sound.total_eq
  path := sound.path_eq

end Store

namespace Blueprint

/-- A store can be read in many ways, and they agree, whatever it was built from. -/
theorem coherent_of_build (blueprint : Blueprint) (store : Store)
    (success : blueprint.build = .ok store) : store.Coherent :=
  (Store.sound_of_built (build_eq_ok_iff.mp success)).coherent

-- A stored key, a derived one, and what is computed from the stored counts.
theorem coherent_california : ∃ store snapshot,
    (stack ["us-west-1", "physbam-layout"]).build = .ok store ∧ store.Coherent ∧
    store.snapshot = .ok snapshot ∧ snapshot.get? "EC2_LOCATION" = some (.text "us-west-1") ∧
    snapshot.get? "INSTANCE_NUM" = some (.integer 0) ∧
    store.entries.get? "INSTANCE_NUM" = none ∧ store.total = .ok 0 := by
  obtain ⟨store, success⟩ := exists_build_stack ["us-west-1", "physbam-layout"] (by decide)
  have coherent := coherent_of_build _ store success
  obtain ⟨snapshot, made, -, same⟩ := coherent.snapshot
  obtain ⟨controllers, workers, total, stored, stored', read, sum⟩ := coherent.total
  have location := value_of_final? success "EC2_LOCATION" (.text "us-west-1")
    (by decide +kernel) rfl
  have noControllers := value_of_final? success "CONTROLLER_NUM" (.integer 0)
    (by decide +kernel) rfl
  have noWorkers := value_of_final? success "WORKER_NUM" (.integer 0) (by decide +kernel) rfl
  cases noControllers.symm.trans (Store.value_of_stored stored)
  cases noWorkers.symm.trans (Store.value_of_stored stored')
  obtain ⟨spec, listed, named, derived⟩ :
      ∃ spec ∈ Schema.table, spec.key = "INSTANCE_NUM" ∧ spec.derived = true := by
    decide +kernel
  have none_ : total = 0 := UInt64.toNat_inj.mp (by simpa using sum)
  exact ⟨store, snapshot, success, coherent, made, (same _ _).mpr location,
    (same _ _).mpr (instanceNum_stack success),
    named ▸ coherent.derived spec listed derived, none_ ▸ read⟩

end Blueprint

end LaunchConfig
