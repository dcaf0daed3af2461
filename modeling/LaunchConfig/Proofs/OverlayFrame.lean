import LaunchConfig.Proofs.Standard

/-!
What an overlay leaves alone. The settings of a blueprint with an overlay are the ones that the
overlay makes and, for all other keys, those from before; a derived key follows its inputs, whatever
the overlay says about the derived key itself.
-/
namespace LaunchConfig

/-- Some assignment is to the key. -/
def Declaration.Assigns (declaration : Declaration) (key : String) : Prop :=
  key ∈ declaration.assignments.map Prod.fst

instance (declaration : Declaration) (key : String) : Decidable (declaration.Assigns key) :=
  inferInstanceAs (Decidable (key ∈ _))

theorem Declaration.value?_eq_none_iff {declaration : Declaration} {key : String} :
    declaration.value? key = none ↔ ¬ declaration.Assigns key := by
  rw [value?, lookup_eq_none_iff_notMem, List.map_reverse, List.mem_reverse]
  rfl

namespace Store

variable {left right : Store} {key : String}

theorem stored?_congr (same : left.entries.get? key = right.entries.get? key) :
    left.stored? key = right.stored? key := by
  rw [stored?, stored?, same]

theorem value_congr (same : left.entries.get? key = right.entries.get? key)
    (plain : isDerived key = false) : left.value key = right.value key := by
  have underived : Derivation.lookup? key = none := by simpa [isDerived] using plain
  simp only [value, stored?_congr same, underived]

theorem categoryOf_congr (same : left.entries.get? key = right.entries.get? key) :
    left.categoryOf key = right.categoryOf key := by
  simp only [categoryOf, same]

theorem contains_congr (same : left.entries.get? key = right.entries.get? key) :
    left.contains key = right.contains key := by
  simp only [contains, KeyMap.contains, same]

end Store

namespace Blueprint

section Overlaid

variable {blueprint : Blueprint} {overlay : Declaration} {store extended : Store}
  (built : blueprint.Built store) (built' : (blueprint.overlay overlay).Built extended)
include built built'

theorem get?_overlaid (key : String) : extended.entries.get? key =
    if Store.isDerived key then none
    else ((overlay.value? key).map (settled key)).or (store.entries.get? key) := by
  have before : store.entries = blueprint.settings := congrArg Store.entries (eq_finished built)
  have after : extended.entries = (blueprint.overlay overlay).settings :=
    congrArg Store.entries (eq_finished built')
  rw [before, after, get?_settings_overlay]

theorem get?_unassigned {key : String} (unassigned : ¬ overlay.Assigns key) :
    extended.entries.get? key = store.entries.get? key := by
  rw [get?_overlaid built built', Declaration.value?_eq_none_iff.mpr unassigned, Option.map_none,
    Option.none_or]
  by_cases derived : Store.isDerived key = true
  · simp [derived, built.entries]
  · simp [derived]

theorem value_assigned {key : String} {value : Value} (plain : Store.isDerived key = false)
    (last : overlay.value? key = some value) :
    extended.value key = .ok (settled key value).value := by
  apply Store.value_of_stored
  simp [Store.stored?, get?_overlaid built built', plain, last]

theorem mem_keys_overlaid_iff {key : String} : key ∈ extended.keys ↔
    key ∈ store.keys ∨ overlay.Assigns key ∧ Store.isDerived key = false := by
  rw [Store.mem_keys_iff, Store.mem_keys_iff, get?_overlaid built built']
  by_cases derived : Store.isDerived key = true
  · simp [derived]
  · cases last : overlay.value? key with
    | none => simp [derived, Declaration.value?_eq_none_iff.mp last]
    | some value =>
      have assigned : overlay.Assigns key := by
        by_contra unassigned
        cases last.symm.trans (Declaration.value?_eq_none_iff.mpr unassigned)
      simp [derived, assigned]

theorem value_derived_unassigned {derivation : Derivation}
    (unassigned : ∀ input ∈ derivation.inputs, ¬ overlay.Assigns input) :
    extended.value derivation.key = store.value derivation.key := by
  rw [Store.value_derived (Store.sound_of_built built),
    Store.value_derived (Store.sound_of_built built')]
  apply Derivation.compute_congr
  intro input member
  exact Store.stored?_congr (get?_unassigned built built' (unassigned input member))

theorem profiles_overlaid : extended.profiles = store.profiles := by
  rw [built.profiles, built'.profiles]
  rfl

end Overlaid

/-- An overlay of keys outside the schema adds its values to the store and changes nothing else. -/
theorem exists_build_overlay {blueprint : Blueprint} {store : Store}
    (success : blueprint.build = .ok store) {overlay : Declaration}
    (unlisted : ∀ key, (Schema.lookup? key).isSome → overlay.value? key = none) :
    ∃ extended, (blueprint.overlay overlay).build = .ok extended ∧
      ∀ key, extended.stored? key = (overlay.value? key).or (store.stored? key) := by
  have built := build_eq_ok_iff.mp success
  have conforms : overlay.Conforms := by
    intro key value spec last listed
    cases last.symm.trans (unlisted key (by rw [listed]; rfl))
  have built' := built.overlay_of_kept conforms fun derivation key member value last => by
    cases last.symm.trans (unlisted key (Schema.isSome_lookup?_of_derivation derivation key member))
  refine ⟨_, build_eq_ok_iff.mpr built', fun key => ?_⟩
  cases last : overlay.value? key with
  | none =>
    rw [Option.none_or]
    exact Store.stored?_congr
      (get?_unassigned built built' (Declaration.value?_eq_none_iff.mp last))
  | some value =>
    have outside : Schema.lookup? key = none := by
      by_contra listed
      cases last.symm.trans (unlisted key (Option.isSome_iff_ne_none.mpr listed))
    have plain : Store.isDerived key = false := by
      by_contra derived
      rcases Store.isDerived_iff.mp (by simpa using derived) with rfl | rfl <;> cases outside
    simp [Store.stored?, get?_overlaid built built', plain, last, settled, outside]

/-- An overlay changes what it assigns, in the values that derived keys have from it too, and
nothing else. What it says about a derived key is checked and then forgotten. -/
theorem frame_of_overlay (blueprint : Blueprint) (overlay : Declaration) (store extended : Store)
    (success : blueprint.build = .ok store)
    (success' : (blueprint.overlay overlay).build = .ok extended) :
    extended.profiles = store.profiles ∧
    (∀ key, key ∈ extended.keys ↔
      key ∈ store.keys ∨ overlay.Assigns key ∧ Store.isDerived key = false) ∧
    (∀ key, ¬ overlay.Assigns key → Store.isDerived key = false →
      extended.value key = store.value key ∧ extended.categoryOf key = store.categoryOf key ∧
      extended.contains key = store.contains key) ∧
    (∀ before key value after, overlay.assignments = before ++ (key, value) :: after →
      key ∉ after.map Prod.fst → Store.isDerived key = false →
      (∀ spec, Schema.lookup? key = some spec → extended.value key = .ok (spec.normalize value)) ∧
      (Schema.lookup? key = none → extended.value key = .ok value)) ∧
    ∀ derivation : Derivation, extended.value derivation.key ≠ store.value derivation.key →
      ∃ input ∈ derivation.inputs, overlay.Assigns input := by
  have built := build_eq_ok_iff.mp success
  have built' := build_eq_ok_iff.mp success'
  refine ⟨profiles_overlaid built built', fun key => mem_keys_overlaid_iff built built', ?_, ?_, ?_⟩
  · intro key unassigned plain
    have same := get?_unassigned built built' unassigned
    exact ⟨Store.value_congr same plain, Store.categoryOf_congr same, Store.contains_congr same⟩
  · intro before key value after split fresh plain
    have read := value_assigned built built' plain (value?_eq_some_iff.mpr ⟨_, _, split, fresh⟩)
    constructor
    · intro spec listed
      simpa [settled, listed] using read
    · intro unlisted
      simpa [settled, unlisted] using read
  · intro derivation changed
    by_contra unassigned
    push Not at unassigned
    exact changed (value_derived_unassigned built built' unassigned)

/-- A finer partition, a period in plain seconds, a key of its own and the number of instances that
there are anyway. -/
def refinement : Declaration :=
  ⟨[("PART_X", .integer 4), ("LB_PERIOD", .integer 90), ("PART_X", .integer 2),
    ("SITE", .text "lab"), ("INSTANCE_NUM", .integer 0)]⟩

theorem refinement_conforms : refinement.Conforms := by
  apply Declaration.conforms_of_assignments
  simp only [refinement, List.forall_mem_cons]
  refine ⟨?_, ?_, ?_, ?_, ?_, by simp⟩
  all_goals
    intro spec listed
    cases listed
  all_goals decide

theorem exists_build_refinement : ∃ store extended, (stack ["us-west-1"]).build = .ok store ∧
    ((stack ["us-west-1"]).overlay refinement).build = .ok extended := by
  obtain ⟨store, success⟩ := exists_build_stack ["us-west-1"] (by decide)
  have built := build_eq_ok_iff.mp success
  -- Of the derived keys and their inputs, only the number of instances is assigned.
  have unassigned : ∀ derivation ∈ Derivation.all, ∀ key ∈ derivation.key :: derivation.inputs,
      key ≠ "INSTANCE_NUM" → refinement.value? key = none := by
    decide
  refine ⟨store, _, success,
    build_eq_ok_iff.mpr (built.overlay_of_kept refinement_conforms fun derivation key member => ?_)⟩
  intro value last
  by_cases counted : key = "INSTANCE_NUM"
  · subst counted
    cases last
    exact instanceNum_stack success
  · have listed : derivation ∈ Derivation.all := by cases derivation <;> decide
    cases last.symm.trans (unassigned derivation listed key member counted)

theorem frame_of_refinement : ∃ store extended, (stack ["us-west-1"]).build = .ok store ∧
    ((stack ["us-west-1"]).overlay refinement).build = .ok extended ∧
    extended.profiles = ["us-west-1"] ∧
    extended.value "PART_X" = .ok (.integer 2) ∧ extended.value "LB_PERIOD" = .ok (.seconds 90) ∧
    extended.value "SITE" = .ok (.text "lab") ∧
    extended.value "PART_Y" = store.value "PART_Y" ∧
    extended.value "INSTANCE_NUM" = store.value "INSTANCE_NUM" := by
  obtain ⟨store, extended, success, success'⟩ := exists_build_refinement
  obtain ⟨profiles, -, unassigned, assigned, derived⟩ :=
    frame_of_overlay (stack ["us-west-1"]) refinement store extended success success'
  refine ⟨store, extended, success, success', ?_, ?_, ?_, ?_, ?_, ?_⟩
  · rw [profiles, (build_eq_ok_iff.mp success).profiles]
    rfl
  · exact (assigned [("PART_X", .integer 4), ("LB_PERIOD", .integer 90)] "PART_X" (.integer 2) _
      rfl (by decide) rfl).1 _ rfl
  · exact (assigned [("PART_X", .integer 4)] "LB_PERIOD" (.integer 90) _ rfl (by decide) rfl).1 _ rfl
  · exact (assigned [("PART_X", .integer 4), ("LB_PERIOD", .integer 90), ("PART_X", .integer 2)]
      "SITE" (.text "lab") _ rfl (by decide) rfl).2 rfl
  · exact (unassigned "PART_Y" (by decide) rfl).1
  · by_contra changed
    obtain ⟨input, member, touched⟩ := derived .instanceNum changed
    simp [Derivation.inputs] at member
    rcases member with rfl | rfl <;> exact absurd touched (by decide)

end Blueprint

end LaunchConfig
