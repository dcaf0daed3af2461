import LaunchConfig.Proofs.Conforming
import LaunchConfig.Proofs.JsonText
import LaunchConfig.Proofs.OverlayFrame
import LaunchConfig.Proofs.Standard
import LaunchConfig.Store.Export

/-!
The JSON form of a store tells what the store holds. A number in the form may stand for an integer
or for as many seconds. Under a key of the schema the key tells which; under other keys nothing
does, and that is all that the form leaves open.
-/
namespace LaunchConfig

namespace Value

/-- An integer and as many seconds. -/
def SameNumber : Value → Value → Prop
  | .integer number, .seconds held | .seconds held, .integer number => number.toInt = held.toNat
  | _, _ => False

theorem toJson_eq_iff {left right : Value} :
    left.toJson = right.toJson ↔ left = right ∨ left.SameNumber right := by
  cases left <;> cases right <;>
    simp only [toJson, SameNumber, Json.integer.injEq, Int.natCast_inj, reduceCtorEq, or_false,
      false_or, Json.boolean.injEq, Json.string.injEq, boolean.injEq, integer.injEq, text.injEq,
      seconds.injEq, Int64.toInt_inj, UInt64.toNat_inj]
  -- Left are seconds against an integer.
  exact eq_comm

theorem fits_toJson (value : Value) (level : Nat) : Json.Fits level value.toJson := by
  cases value with
  | integer held =>
    have low := held.le_toInt
    have high := held.toInt_lt
    simp only [toJson, Json.fits_integer, Numeral.le_maxUnsigned_iff]
    omega
  | _ => simp [toJson]

theorem not_sameNumber_of_stores {spec : KeySpec} {left right : Value} (stores : spec.Stores left)
    (stores' : spec.Stores right) : ¬ left.SameNumber right := by
  intro same
  cases left <;> cases right <;> simp_all [SameNumber, KeySpec.Stores]

end Value

namespace Store

/-- The same keys with the same values, where outside the schema an integer may stand for as many
seconds. -/
structure Alike (left right : Store) : Prop where
  keys : left.keys = right.keys
  values : ∀ key ∈ left.keys, ∃ value value',
    left.value key = .ok value ∧ right.value key = .ok value' ∧
      (value = value' ∨ Schema.lookup? key = none ∧ value.SameNumber value')

variable {left right : Store}

theorem Sound.exists_jsonText {store : Store} (sound : store.Sound) : ∃ form : KeyMap Json,
    store.jsonText = .ok (Json.object form.pairs).indented ∧
    Json.Fits Json.maxLevel (.object form.pairs) ∧ form.keys = store.keys ∧
    ∀ key value, store.value key = .ok value → form.get? key = some value.toJson := by
  obtain ⟨held, made, sameKeys, answers⟩ := snapshot_of_readable fun key => sound.value_known
  refine ⟨held.map Value.toJson, ?_, ?_, ?_, ?_⟩
  · rw [jsonText, toJson, made]
    rfl
  · refine .object fun member inside => ?_
    obtain ⟨pair, -, rfl⟩ := List.mem_map.mp inside
    exact pair.2.fits_toJson _
  · rw [← sameKeys]
    simp [KeyMap.keys, KeyMap.map]
  · intro key value read
    rw [KeyMap.get?_map, (answers key value).mpr read, Option.map_some]

theorem Alike.value_eq (alike : left.Alike right) {key : String} (present : key ∈ left.keys)
    (listed : (Schema.lookup? key).isSome) : left.value key = right.value key := by
  obtain ⟨value, value', read, read', rfl | ⟨unlisted, -⟩⟩ := alike.values key present
  · rw [read, read']
  · simp [unlisted] at listed

theorem Sound.exists_texts (sound : left.Sound) (sound' : right.Sound) :
    ∃ text text', left.jsonText = .ok text ∧ right.jsonText = .ok text' ∧
      (text = text' ↔ left.Alike right) := by
  obtain ⟨form, printed, fits, names, gives⟩ := sound.exists_jsonText
  obtain ⟨form', printed', fits', names', gives'⟩ := sound'.exists_jsonText
  refine ⟨_, _, printed, printed', ?_⟩
  rw [Json.indented_inj fits fits', Json.object.injEq]
  constructor
  · intro same
    obtain rfl : form = form' := by
      cases form
      cases form'
      cases same
      rfl
    refine ⟨names.symm.trans names', fun key present => ?_⟩
    obtain ⟨value, read⟩ := sound.value_known present
    obtain ⟨value', read'⟩ := sound'.value_known (names'.symm.trans names ▸ present)
    refine ⟨value, value', read, read', ?_⟩
    have written := Option.some.inj ((gives key value read).symm.trans (gives' key value' read'))
    refine (Value.toJson_eq_iff.mp written).imp_right fun number => ⟨?_, number⟩
    cases listed : Schema.lookup? key with
    | none => rfl
    | some spec =>
      exact absurd number (Value.not_sameNumber_of_stores (sound.stores_value read listed)
        (sound'.stores_value read' listed))
  · intro alike
    refine congrArg KeyMap.pairs (KeyMap.ext_get? fun key => ?_)
    by_cases present : key ∈ left.keys
    · obtain ⟨value, value', read, read', same⟩ := alike.values key present
      have written := Value.toJson_eq_iff.mpr (same.imp_right And.right)
      rw [gives key value read, gives' key value' read', written]
    · have absent : ∀ {other : KeyMap Json}, other.keys = left.keys → other.get? key = none := by
        intro other same
        rw [← same, KeyMap.mem_keys_iff] at present
        simpa using present
      rw [absent names, absent (names'.trans alike.keys.symm)]

end Store

namespace Blueprint

/-- All built stores can be written as JSON, and from the texts one can tell the stores apart, up to
seconds outside the schema. -/
theorem json_export (blueprint blueprint' : Blueprint) (left right : Store)
    (success : blueprint.build = .ok left) (success' : blueprint'.build = .ok right) :
    ∃ text text', left.jsonText = .ok text ∧ right.jsonText = .ok text' ∧
      (text = text' ↔ left.Alike right) ∧
      (text = text' → ∀ spec ∈ Schema.table, left.value spec.key = right.value spec.key) := by
  have sound := Store.sound_of_built (build_eq_ok_iff.mp success)
  have sound' := Store.sound_of_built (build_eq_ok_iff.mp success')
  obtain ⟨text, text', printed, printed', same⟩ := sound.exists_texts sound'
  refine ⟨text, text', printed, printed', same, fun equal spec inTable => ?_⟩
  refine (same.mp equal).value_eq (sound.mem_keys inTable) ?_
  rw [Schema.lookup?_eq_some_iff.mpr ⟨inTable, rfl⟩]
  rfl

def extra (value : Value) : Declaration :=
  ⟨[("EXTRA", value)]⟩

/-- Any store can be given a value under a key that nobody knows. -/
theorem exists_build_extra {blueprint : Blueprint} {store : Store}
    (success : blueprint.build = .ok store) (value : Value) : ∃ extended,
      (blueprint.overlay (extra value)).build = .ok extended ∧
      extended.value "EXTRA" = .ok value ∧
      (∀ key, key ∈ extended.keys ↔ key ∈ store.keys ∨ key = "EXTRA") ∧
      ∀ key, key ≠ "EXTRA" → extended.value key = store.value key := by
  have only : ∀ key, (extra value).value? key = if key = "EXTRA" then some value else none :=
    fun key => value?_single "EXTRA" key value
  have known : ∀ key, (Schema.lookup? key).isSome → key ≠ "EXTRA" := by
    rintro key listed rfl
    cases listed
  have assigns : ∀ key, (extra value).Assigns key ↔ key = "EXTRA" := by
    intro key
    rw [← not_iff_not, ← Declaration.value?_eq_none_iff, only]
    simp
  obtain ⟨extended, success', -⟩ := exists_build_overlay success fun key listed => by
    rw [only, if_neg (known key listed)]
  have built := build_eq_ok_iff.mp success
  have built' := build_eq_ok_iff.mp success'
  refine ⟨extended, success', value_assigned built built' rfl rfl, fun key => ?_, ?_⟩
  · rw [mem_keys_overlaid_iff built built', assigns]
    refine or_congr_right (and_iff_left_of_imp ?_)
    rintro rfl
    rfl
  · intro key differs
    cases derived : Store.isDerived key with
    | false =>
      exact Store.value_congr (get?_unassigned built built' (mt (assigns key).mp differs)) derived
    | true =>
      obtain ⟨derivation, found⟩ := Option.isSome_iff_exists.mp derived
      obtain rfl := Derivation.lookup?_eq_some_iff.mp found
      refine value_derived_unassigned built built' fun input member => mt (assigns input).mp ?_
      exact known input
        (Schema.isSome_lookup?_of_derivation derivation input (List.mem_cons_of_mem _ member))

/-- Five of something and five seconds look the same under a key that nobody knows. -/
theorem json_export_extra : ∃ left right text,
    ((stack []).overlay (extra (.integer 5))).build = .ok left ∧
    ((stack []).overlay (extra (.seconds 5))).build = .ok right ∧
    left.value "EXTRA" = .ok (.integer 5) ∧ right.value "EXTRA" = .ok (.seconds 5) ∧
    left.jsonText = .ok text ∧ right.jsonText = .ok text := by
  obtain ⟨store, success⟩ := exists_build_stack [] (by decide)
  obtain ⟨left, built, read, keys, others⟩ := exists_build_extra success (.integer 5)
  obtain ⟨right, built', read', keys', others'⟩ := exists_build_extra success (.seconds 5)
  obtain ⟨text, text', printed, printed', same, -⟩ := json_export _ _ left right built built'
  have alike : left.Alike right := by
    refine ⟨keys_ext (KeyMap.keys_ascending _) (KeyMap.keys_ascending _) fun key => ?_,
      fun key present => ?_⟩
    · exact (keys key).trans (keys' key).symm
    · by_cases differs : key = "EXTRA"
      · subst differs
        exact ⟨_, _, read, read', Or.inr ⟨rfl, rfl⟩⟩
      · obtain ⟨value, known⟩ :=
          (Store.sound_of_built (build_eq_ok_iff.mp built)).value_known present
        have known' := (others' key differs).trans ((others key differs).symm.trans known)
        exact ⟨value, value, known, known', Or.inl rfl⟩
  exact ⟨left, right, text, built, built', read, read', printed, same.mpr alike ▸ printed'⟩

end Blueprint

end LaunchConfig
