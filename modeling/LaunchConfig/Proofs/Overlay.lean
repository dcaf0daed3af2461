import LaunchConfig.Declaration.Overlay
import LaunchConfig.Proofs.KeyMap
import LaunchConfig.Proofs.Steps

/-!
The assignments of an overlay, read off its table. An overlay is accepted as a whole or not at all;
then each key of its table is assigned its own value, and each key of the reserved list a null one.
-/
namespace LaunchConfig

/-- The value that a TOML value assigns, unless it has parts or no counterpart. -/
def Toml.plain? : Toml → Option Value
  | .text held => some (.text held)
  | .integer held => some (.integer held)
  | .boolean held => some (.boolean held)
  | .float _ | .moment _ | .array _ | .table _ => none

namespace Declaration

theorem assignedValue_eq_ok_iff {disabled : List String} {key : String} {held : Toml}
    {value : Value} : assignedValue disabled key held = .ok value ↔
      key ∉ disabled ∧ held.plain? = some value := by
  unfold assignedValue
  by_cases listed : key ∈ disabled
  · simp [listed]
  · cases held <;> simp [listed, Toml.plain?]

theorem mapM_disabledName (names : List String) :
    (names.map Toml.text).mapM disabledName = .ok names := by
  induction names with
  | nil => rfl
  | cons name rest ih =>
    have first : disabledName (.text name) = .ok name := rfl
    rw [List.map_cons, mapM_cons_eq, first, ok_bind, ih, ok_bind]

/-- The assignments of an accepted overlay, when these keys are listed as switched off. -/
def overlaid (table : KeyMap Toml) (names : List String) : Declaration :=
  ⟨((table.erase disabledKey).pairs.map fun pair => (pair.1, pair.2.plain?.getD .null))
    ++ names.map fun key => (key, .null)⟩

theorem ofTable_eq_ok_iff {table : KeyMap Toml} {declaration : Declaration} :
    ofTable table = .ok declaration ↔ ∃ names, disabledNames table = .ok names ∧
      (∀ pair ∈ (table.erase disabledKey).pairs, pair.1 ∉ names ∧ pair.2.plain?.isSome) ∧
      declaration = overlaid table names := by
  have steps : ∀ names, (∀ pair ∈ (table.erase disabledKey).pairs,
      pair.1 ∉ names ∧ pair.2.plain?.isSome) →
      ((table.erase disabledKey).pairs.mapM fun pair => do
        let value ← assignedValue names pair.1 pair.2
        return (pair.1, value)) =
      .ok ((table.erase disabledKey).pairs.map fun pair => (pair.1, pair.2.plain?.getD .null)) := by
    intro names plain
    refine mapM_eq_map fun pair member => ?_
    obtain ⟨fresh, some_⟩ := plain pair member
    obtain ⟨value, known⟩ := Option.isSome_iff_exists.mp some_
    rw [assignedValue_eq_ok_iff.mpr ⟨fresh, known⟩, known]
    rfl
  constructor
  · intro success
    obtain ⟨names, listed, success⟩ := bind_eq_ok_iff.mp success
    obtain ⟨assigned, walked, same⟩ := bind_eq_ok_iff.mp success
    have plain : ∀ pair ∈ (table.erase disabledKey).pairs,
        pair.1 ∉ names ∧ pair.2.plain?.isSome := by
      intro pair member
      obtain ⟨result, -, done⟩ := step_of_mapM_eq_ok walked pair member
      obtain ⟨value, known, -⟩ := bind_eq_ok_iff.mp done
      obtain ⟨fresh, plain⟩ := assignedValue_eq_ok_iff.mp known
      exact ⟨fresh, by simp [plain]⟩
    refine ⟨names, listed, plain, ?_⟩
    cases (steps names plain).symm.trans walked
    exact (Except.ok.inj same).symm
  · rintro ⟨names, listed, plain, rfl⟩
    have walked := steps names plain
    unfold ofTable
    rw [listed, ok_bind, walked, ok_bind]
    rfl

theorem value?_overlaid (table : KeyMap Toml) (names : List String) (key : String) :
    (overlaid table names).value? key =
      if key ∈ names then some .null
      else if key = disabledKey then none
      else (table.get? key).map fun held => held.plain?.getD .null := by
  let kept := (table.erase disabledKey).map fun held => held.plain?.getD .null
  have own : kept.pairs.reverse.lookup key = kept.get? key := by
    rw [← KeyMap.get?_ofList, KeyMap.ofList_pairs]
  -- The null values come last, so they count first.
  have off := lookup_map_keys (fun _ => Value.null) key names.reverse
  change (kept.pairs ++ names.map fun key => (key, Value.null)).reverse.lookup key = _
  rw [List.reverse_append, List.lookup_append, own, KeyMap.get?_map, KeyMap.get?_erase,
    ← List.map_reverse, off]
  by_cases listed : key ∈ names
  · simp [listed]
  · by_cases reserved : key = disabledKey <;> simp [listed, reserved]

/-- An overlay assigns no number of seconds, and to the reserved key a null value at most. -/
theorem mem_ofTable {table : KeyMap Toml} {declaration : Declaration}
    (success : ofTable table = .ok declaration) {pair : String × Value}
    (assigned : pair ∈ declaration.assignments) :
    (∀ seconds, pair.2 ≠ .seconds seconds) ∧ (pair.1 = disabledKey → pair.2 = .null) := by
  obtain ⟨names, -, -, rfl⟩ := ofTable_eq_ok_iff.mp success
  rcases List.mem_append.mp assigned with own | off
  · obtain ⟨⟨key, held⟩, member, rfl⟩ := List.mem_map.mp own
    refine ⟨?_, ?_⟩
    · intro seconds
      cases held <;> simp [Toml.plain?]
    · intro reserved
      have other : key ≠ disabledKey := by simpa using (List.mem_filter.mp member).2
      exact absurd reserved other
  · obtain ⟨key, -, rfl⟩ := List.mem_map.mp off
    exact ⟨fun seconds => by simp, fun _ => rfl⟩

end Declaration

end LaunchConfig
