import LaunchConfig.Proofs.Reload
import LaunchConfig.Proofs.OverlayFrame

/-!
The TOML form of a store as a declaration. The form is meant to assign every readable key its value;
the list of null keys has a reserved name, and whether a setting has that name decides.
-/
namespace LaunchConfig

namespace Store

/-- The text is accepted as a declaration, which assigns to the readable keys their values, and
nothing to others. -/
def Exports (store : Store) (text : String) : Prop :=
  ∃ declaration, Declaration.ofToml text = .ok declaration ∧
    declaration.resolve.keys = store.keys ∧
    ∀ key value, store.value key = .ok value → declaration.resolve.get? key = some value.reread

theorem Sound.isSome_value_iff {store : Store} (sound : store.Sound) {key : String} :
    (store.value key).toOption.isSome ↔ key ∈ store.keys := by
  by_cases present : key ∈ store.keys
  · obtain ⟨value, read⟩ := sound.value_known present
    simp [read, Except.toOption, present]
  · simp [value_unknown present, Except.toOption, present]

theorem Sound.exports_iff {store : Store} (sound : store.Sound) {text : String}
    (printed : store.tomlText = .ok text) : store.Exports text ↔
      ∀ value, store.stored? Declaration.disabledKey = some value → value = .null := by
  constructor
  · rintro ⟨declaration, accepted, -, gives⟩ value stored
    by_contra visible
    have given := gives _ value (value_of_stored stored)
    rw [get?_resolve, value?_of_printed sound printed (Or.inl rfl) accepted,
      value_of_stored stored, if_pos ⟨rfl, by simpa using visible⟩] at given
    cases given
  · intro reserved
    obtain ⟨declaration, accepted, echo⟩ :=
      exists_echo_of_reserved sound printed (Or.inl rfl) reserved
    refine ⟨declaration, accepted, ?_, ?_⟩
    · have ascending : store.keys.Pairwise (· < ·) := KeyMap.keys_ascending _
      refine keys_ext (KeyMap.keys_ascending _) ascending fun key => ?_
      rw [KeyMap.mem_keys_iff, get?_resolve, echo, Option.isSome_map, sound.isSome_value_iff]
    · intro key value read
      rw [get?_resolve, echo, read]
      rfl

end Store

namespace Blueprint

/-- The TOML form of a built store gives back all of its values exactly when no setting stands in
the place of the reserved list. Such a setting makes the form unreadable if no key is null; if one
is, the setting alone is lost. -/
theorem toml_export (blueprint : Blueprint) (store : Store) (text : String)
    (success : blueprint.build = .ok store) (printed : store.tomlText = .ok text) :
    (store.Exports text ↔ ∀ value, store.stored? "disabled" = some value → value = .null) ∧
    ((∃ declaration, Declaration.ofToml text = .ok declaration) ↔
      store.stored? "disabled" = none ∨ ∃ key, store.value key = .ok .null) ∧
    ∀ declaration, Declaration.ofToml text = .ok declaration → ∀ key, key ≠ "disabled" →
      declaration.resolve.get? key = (store.value key).toOption.map Value.reread := by
  have sound := Store.sound_of_built (build_eq_ok_iff.mp success)
  refine ⟨sound.exports_iff printed, Store.exists_ofToml_iff sound printed (Or.inl rfl), ?_⟩
  intro declaration accepted key other
  rw [get?_resolve, Store.value?_of_printed sound printed (Or.inl rfl) accepted,
    if_neg fun lost => other lost.1]

-- Nothing is stored under the reserved name, so all comes back, derived keys included.
theorem toml_export_california : ∃ store text declaration,
    (stack ["us-west-1"]).build = .ok store ∧ store.tomlText = .ok text ∧
    store.stored? "disabled" = none ∧ store.Exports text ∧
    Declaration.ofToml text = .ok declaration ∧
    declaration.resolve.get? "EC2_LOCATION" = some (.text "us-west-1") ∧
    declaration.resolve.get? "INSTANCE_NUM" = some (.integer 0) := by
  obtain ⟨store, text, success, printed⟩ := exists_text_stack ["us-west-1"] (by decide)
  obtain ⟨exports, accepted, given⟩ := toml_export _ store text success printed
  have free := stored?_stack_eq_none success "disabled" (by decide +kernel)
  obtain ⟨declaration, read⟩ := accepted.mpr (Or.inl free)
  have location := value_of_final? success "EC2_LOCATION" (.text "us-west-1")
    (by decide +kernel) rfl
  refine ⟨store, text, declaration, success, printed, free, exports.mpr ?_, read, ?_, ?_⟩
  · intro value stored
    cases free.symm.trans stored
  · rw [given declaration read _ (by decide), location]
    rfl
  · rw [given declaration read _ (by decide), instanceNum_stack success]
    rfl

/-- Any setting in the place of the reserved list spoils the form of any store. -/
theorem exists_not_exports {blueprint : Blueprint} {store : Store}
    (success : blueprint.build = .ok store) (short : store.Writable) {value : Value}
    (visible : value ≠ .null) (brief : ¬ value.TooLong) : ∃ extended text,
      (blueprint.overlay ⟨[(Declaration.disabledKey, value)]⟩).build = .ok extended ∧
      extended.tomlText = .ok text ∧ ¬ extended.Exports text := by
  let setting : Declaration := ⟨[(Declaration.disabledKey, value)]⟩
  have only : ∀ key, setting.value? key =
      if key = Declaration.disabledKey then some value else none :=
    fun key => value?_single Declaration.disabledKey key value
  have unlisted : ∀ key, (Schema.lookup? key).isSome → setting.value? key = none := by
    intro key listed
    rw [only, if_neg]
    rintro rfl
    cases listed
  obtain ⟨extended, success', held⟩ := exists_build_overlay success unlisted
  have sound := Store.sound_of_built (build_eq_ok_iff.mp success')
  have short' : extended.Writable := by
    intro key other stored
    rw [held, only] at stored
    split at stored
    · cases stored
      exact brief
    · exact short key other (by simpa using stored)
  obtain ⟨text, printed⟩ := sound.exists_text short'
  refine ⟨extended, text, success', printed, ?_⟩
  rw [sound.exports_iff printed]
  intro reserved
  exact visible (reserved value (by rw [held, only]; rfl))

theorem not_exports_reserved : ∃ store text,
    ((stack []).overlay ⟨[("disabled", .integer 5)]⟩).build = .ok store ∧
    store.tomlText = .ok text ∧ ¬ store.Exports text := by
  obtain ⟨store, text, success, printed⟩ := exists_text_stack [] (by decide)
  have sound := Store.sound_of_built (build_eq_ok_iff.mp success)
  exact exists_not_exports success (Store.writable_of_printed sound printed) (by decide) id

end Blueprint

end LaunchConfig
