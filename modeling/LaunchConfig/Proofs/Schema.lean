import LaunchConfig.Derivation
import LaunchConfig.Proofs.Steps
import LaunchConfig.Schema.Table
import LaunchConfig.Store.Basic
import Mathlib.Data.List.Nodup

/-!
What a key of the schema stores. The test of a key is decided by the kind of the value and, for
counts, its sign; bringing a value into the kind of its key once is enough. The table has each key
once, and its derived keys are those that have a derivation.
-/
namespace LaunchConfig

namespace KeySpec

/-- The values that may stand under a key. -/
def Stores (spec : KeySpec) : Value → Prop
  | .null => spec.nullable = true
  | .boolean _ => spec.kind = .boolean
  | .integer held => spec.kind = .count ∧ 0 ≤ held.toInt
  | .text _ => spec.kind = .text
  | .seconds _ => spec.kind = .duration

theorem check_eq_ok_iff (spec : KeySpec) (value : Value) :
    spec.check value = .ok () ↔ spec.Stores value := by
  cases value with
  | null => by_cases open_ : spec.nullable = true <;> simp [check, Stores, open_]
  | integer held =>
    by_cases below : held.toInt < 0
    · cases kind : spec.kind <;> simp [check, Stores, kind, below, Int.not_le.mpr below]
    · cases kind : spec.kind <;> simp [check, Stores, kind, below, Int.not_lt.mp below]
  | boolean held => cases kind : spec.kind <;> simp [check, Stores, kind]
  | text held => cases kind : spec.kind <;> simp [check, Stores, kind]
  | seconds held => cases kind : spec.kind <;> simp [check, Stores, kind]

theorem normalize_of_stores {spec : KeySpec} {value : Value} (stores : spec.Stores value) :
    spec.normalize value = value := by
  cases value with
  | integer held => simp [normalize, stores.1]
  | null => rfl
  | boolean held => rfl
  | text held => rfl
  | seconds held => rfl

end KeySpec

namespace Schema

theorem keys_nodup : (table.map KeySpec.key).Nodup := by decide +kernel

theorem derived_eq_isDerived : ∀ spec ∈ table, spec.derived = Store.isDerived spec.key := by
  decide +kernel

theorem lookup?_derivation (derivation : Derivation) :
    ∃ spec, lookup? derivation.key = some spec ∧ spec.nullable = false := by
  cases derivation <;> exact ⟨_, rfl, rfl⟩

/-- No derived key is a duration, so a value for it stays as it is. -/
theorem normalize_derivation {derivation : Derivation} {spec : KeySpec}
    (listed : lookup? derivation.key = some spec) (value : Value) : spec.normalize value = value := by
  cases derivation <;> cases listed <;> cases value <;> rfl

/-- Derivations are between keys of the schema. -/
theorem isSome_lookup?_of_derivation (derivation : Derivation) :
    ∀ key ∈ derivation.key :: derivation.inputs, (lookup? key).isSome := by
  cases derivation <;> decide +kernel

theorem lookup?_eq_some_iff {key : String} {spec : KeySpec} :
    lookup? key = some spec ↔ spec ∈ table ∧ spec.key = key := by
  unfold lookup?
  constructor
  · intro found
    exact ⟨List.mem_of_find?_eq_some found, by simpa using List.find?_some found⟩
  · rintro ⟨member, rfl⟩
    cases found : table.find? fun other => decide (other.key = spec.key) with
    | none => simpa using List.find?_eq_none.mp found spec member
    | some other =>
      have same : other.key = spec.key := by simpa using List.find?_some found
      have once := List.inj_on_of_nodup_map keys_nodup (List.mem_of_find?_eq_some found) member same
      rw [once]

end Schema

end LaunchConfig
