import LaunchConfig.Proofs.BuildOutcome

/-!
What is left of a declaration once it is resolved. The order of the assignments counts only for keys
that are assigned different values, and a store is built from what overlays resolve to.
-/
namespace LaunchConfig

theorem lookup_eq_some_iff_of_unique {α : Type} {key : String} {value : α}
    {pairs : List (String × α)}
    (unique : ∀ held held', (key, held) ∈ pairs → (key, held') ∈ pairs → held = held') :
    pairs.lookup key = some value ↔ (key, value) ∈ pairs := by
  constructor
  · exact mem_of_lookup
  · intro member
    have some_ := lookup_isSome_iff_mem.mpr (List.mem_map_of_mem member)
    obtain ⟨held, found⟩ := Option.isSome_iff_exists.mp some_
    rw [found, unique held value (mem_of_lookup found) member]

namespace Declaration

/-- No key is assigned two values, though it may be assigned one value more than once. -/
def Consistent (declaration : Declaration) : Prop :=
  ∀ key value value', (key, value) ∈ declaration.assignments →
    (key, value') ∈ declaration.assignments → value = value'

theorem Consistent.value?_eq_some_iff {declaration : Declaration}
    (consistent : declaration.Consistent) {key : String} {value : Value} :
    declaration.value? key = some value ↔ (key, value) ∈ declaration.assignments := by
  rw [value?, lookup_eq_some_iff_of_unique, List.mem_reverse]
  intro held held' member member'
  exact consistent key held held' (List.mem_reverse.mp member) (List.mem_reverse.mp member')

/-- Declarations with the same assignments, in whichever order and however often, resolve to the same
values. -/
theorem Consistent.resolve_eq {declaration other : Declaration}
    (consistent : declaration.Consistent)
    (same : ∀ pair, pair ∈ other.assignments ↔ pair ∈ declaration.assignments) :
    other.resolve = declaration.resolve := by
  have consistent' : other.Consistent := by
    intro key value value' member member'
    exact consistent key value value' ((same _).mp member) ((same _).mp member')
  apply KeyMap.ext_get?
  intro key
  rw [get?_resolve, get?_resolve]
  apply Option.ext
  intro value
  rw [consistent.value?_eq_some_iff, consistent'.value?_eq_some_iff, same]

end Declaration

namespace Blueprint

variable {blueprint : Blueprint} {overlay other : Declaration}

theorem declaration_overlay (blueprint : Blueprint) (overlay : Declaration) :
    (blueprint.overlay overlay).declaration =
      blueprint.declaration >>= fun declared => .ok (declared.merge overlay) := by
  unfold Blueprint.declaration Blueprint.overlay
  simp only [List.foldl_append, List.foldl_cons, List.foldl_nil]
  cases blueprint.registry.select blueprint.profiles <;> rfl

theorem resolve_merge_congr (declaration : Declaration) (same : overlay.resolve = other.resolve) :
    (declaration.merge overlay).resolve = (declaration.merge other).resolve := by
  apply KeyMap.ext_get?
  intro key
  have equal : overlay.value? key = other.value? key := by
    rw [← get?_resolve, ← get?_resolve, same]
  rw [get?_resolve, get?_resolve, value?_merge, value?_merge, equal]

section Overlays

variable (same : overlay.resolve = other.resolve)
include same

/-- A last overlay enters a store through what it resolves to. -/
theorem build_overlay_congr :
    (blueprint.overlay overlay).build = (blueprint.overlay other).build := by
  unfold build
  rw [declaration_overlay, declaration_overlay]
  cases blueprint.declaration with
  | error fault => rfl
  | ok declared =>
    simp only [ok_bind, resolve_merge_congr declared same]
    rfl

theorem enumeration_overlay_congr {order : List (String × Value)} :
    (blueprint.overlay overlay).Enumeration order ↔
      (blueprint.overlay other).Enumeration order := by
  unfold Enumeration
  rw [declaration_overlay, declaration_overlay]
  cases blueprint.declaration with
  | error fault => simp [error_bind]
  | ok declared => simp [ok_bind, resolve_merge_congr declared same]

end Overlays

theorem buildIn_overlay (blueprint : Blueprint) (overlay : Declaration)
    (order : List (String × Value)) :
    (blueprint.overlay overlay).buildIn order = blueprint.buildIn order := by
  unfold buildIn
  rw [declaration_overlay]
  cases blueprint.declaration with
  | error fault => rfl
  | ok declared => rfl

end Blueprint

end LaunchConfig
