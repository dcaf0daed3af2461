import LaunchConfig.Proofs.OverlayFrame

/-!
Profiles that are selected more than once. A later selection assigns again whatever an earlier one of
the same profile assigned, and whatever comes between them loses to it, so only the last selection
counts. The first one would not do: a profile in between may have changed what it assigned.
-/
namespace LaunchConfig

/-- The names without those that come again later, if they pass the test; the last occurrence of a
name stays in its place. -/
def lastOnly (repeats : String → Bool) : List String → List String
  | [] => []
  | name :: rest =>
    if repeats name = true ∧ name ∈ rest then lastOnly repeats rest
    else name :: lastOnly repeats rest

theorem mem_lastOnly_iff {repeats : String → Bool} {names : List String} {name : String} :
    name ∈ lastOnly repeats names ↔ name ∈ names := by
  induction names with
  | nil => rfl
  | cons first rest ih =>
    rw [lastOnly]
    split
    next again =>
      rw [ih, List.mem_cons, or_iff_right_of_imp]
      rintro rfl
      exact again.2
    next => rw [List.mem_cons, List.mem_cons, ih]

theorem lastOnly_eq_nil_iff {repeats : String → Bool} {names : List String} :
    lastOnly repeats names = [] ↔ names = [] := by
  simp only [List.eq_nil_iff_forall_not_mem, mem_lastOnly_iff]

namespace Registry

/-- The assignments of the named profiles, one profile after the other. -/
def overrides (registry : Registry) (names : List String) : Declaration :=
  ⟨(names.filterMap registry.profiles.get?).flatMap fun profile => profile.overrides.assignments⟩

variable (registry : Registry)

theorem overrides_cons (name : String) (rest : List String) :
    registry.overrides (name :: rest) =
      (registry.overrides [name]).merge (registry.overrides rest) := by
  unfold overrides Declaration.merge
  cases found : registry.profiles.get? name <;> simp [found]

/-- A profile that is named again later assigns no key that is not assigned later. -/
theorem value?_overrides_again {name : String} {rest : List String} (again : name ∈ rest)
    {key : String} (unassigned : (registry.overrides rest).value? key = none) :
    (registry.overrides [name]).value? key = none := by
  rw [Declaration.value?_eq_none_iff] at unassigned ⊢
  intro assigned
  obtain ⟨pair, member, same⟩ := List.mem_map.mp assigned
  obtain ⟨profile, found, inside⟩ := List.mem_flatMap.mp member
  have kept : profile ∈ rest.filterMap registry.profiles.get? := by
    obtain ⟨other, only, held⟩ := List.mem_filterMap.mp found
    rw [List.mem_singleton.mp only] at held
    exact List.mem_filterMap.mpr ⟨name, again, held⟩
  exact unassigned (List.mem_map.mpr ⟨pair, List.mem_flatMap.mpr ⟨profile, kept, inside⟩, same⟩)

theorem value?_overrides_cons_again {name : String} {rest : List String} (again : name ∈ rest)
    (key : String) :
    (registry.overrides (name :: rest)).value? key = (registry.overrides rest).value? key := by
  rw [overrides_cons, value?_merge]
  cases later : (registry.overrides rest).value? key with
  | some value => rfl
  | none => rw [Option.none_or, registry.value?_overrides_again again later]

theorem value?_overrides_lastOnly (repeats : String → Bool) (names : List String) (key : String) :
    (registry.overrides (lastOnly repeats names)).value? key =
      (registry.overrides names).value? key := by
  induction names with
  | nil => rfl
  | cons name rest ih =>
    rw [lastOnly]
    split
    next again => rw [ih, registry.value?_overrides_cons_again again.2]
    next =>
      rw [overrides_cons registry name rest, overrides_cons registry name, value?_merge,
        value?_merge, ih]

end Registry

namespace Blueprint

/-- The blueprint without those selections of a profile that are repeated later. -/
def selectingLast (blueprint : Blueprint) (repeats : String → Bool) : Blueprint :=
  { blueprint with profiles := lastOnly repeats blueprint.profiles }

variable {blueprint : Blueprint} {repeats : String → Bool}

theorem known_selectingLast_iff : (blueprint.selectingLast repeats).Known ↔ blueprint.Known := by
  simp only [Known, selectingLast, mem_lastOnly_iff]

theorem final?_selectingLast (blueprint : Blueprint) (repeats : String → Bool) (key : String) :
    (blueprint.selectingLast repeats).final? key = blueprint.final? key := by
  have sources : ∀ other : Blueprint, other.sources =
      (other.base.merge (other.registry.overrides other.profiles)).merge
        ⟨other.overlays.flatMap Declaration.assignments⟩ := fun other => rfl
  rw [final?, final?, sources, sources, value?_merge, value?_merge, value?_merge, value?_merge]
  simp only [selectingLast, Registry.value?_overrides_lastOnly]

theorem resolve_selectingLast (blueprint : Blueprint) (repeats : String → Bool) :
    (blueprint.selectingLast repeats).sources.resolve = blueprint.sources.resolve := by
  apply KeyMap.ext_get?
  intro key
  rw [get?_resolve, get?_resolve]
  exact blueprint.final?_selectingLast repeats key

theorem enumeration_selectingLast_iff (known : blueprint.Known) {order : List (String × Value)} :
    (blueprint.selectingLast repeats).Enumeration order ↔ blueprint.Enumeration order := by
  have same := blueprint.resolve_selectingLast repeats
  constructor
  · intro enumerated
    apply enumeration_of_perm
    rw [← same]
    exact enumerated.perm (known_selectingLast_iff.mpr known)
  · intro enumerated
    apply enumeration_of_perm
    rw [same]
    exact enumerated.perm known

/-- The names of the profiles label a store, and nothing else depends on them. -/
theorem assemble_relabelled (profiles others : List String) (assigned : List (String × Value)) :
    assemble others assigned = (assemble profiles assigned).map fun store =>
      { store with profiles := if others.isEmpty then [Profile.defaultName] else others } := by
  unfold assemble
  cases settleAll assigned with
  | error fault => rfl
  | ok entries =>
    simp only [ok_bind]
    split
    · rfl
    · cases Derivation.all.forM (checkDerived assigned entries) <;> rfl

/-- Two builds end alike: with one error, or with stores that differ in the names of their profiles
at most. -/
inductive SameBuild : Except ConfigError Store → Except ConfigError Store → Prop
  | failed (fault : ConfigError) : SameBuild (.error fault) (.error fault)
  | built {store kept : Store} (entries : kept.entries = store.entries)
      (snapshot : kept.snapshot = store.snapshot) : SameBuild (.ok store) (.ok kept)

theorem SameBuild.eq_error {fault : ConfigError} {outcome : Except ConfigError Store}
    (same : SameBuild (.error fault) outcome) : outcome = .error fault := by
  cases same
  rfl

theorem sameBuild_selectingLast (known : blueprint.Known) (order : List (String × Value)) :
    SameBuild (blueprint.buildIn order) ((blueprint.selectingLast repeats).buildIn order) := by
  rw [buildIn_of_known known, buildIn_of_known (known_selectingLast_iff.mpr known),
    assemble_relabelled blueprint.profiles (blueprint.selectingLast repeats).profiles order]
  cases assemble blueprint.profiles order with
  | error fault => exact .failed fault
  | ok store => exact .built rfl (Store.snapshot_congr rfl)

-- The order of the keys is left to chance, and may differ between the two builds.
theorem sameBuild_or_unfit (known : blueprint.Known) {order order' : List (String × Value)}
    (enumerated : blueprint.Enumeration order)
    (enumerated' : (blueprint.selectingLast repeats).Enumeration order') :
    SameBuild (blueprint.buildIn order) ((blueprint.selectingLast repeats).buildIn order') ∨
    ∃ spec spec' fault fault', spec ≠ spec' ∧ blueprint.Unfit spec fault ∧
      blueprint.Unfit spec' fault' ∧ blueprint.buildIn order = .error fault ∧
      (blueprint.selectingLast repeats).buildIn order' = .error fault' := by
  have same : SameBuild (blueprint.buildIn order')
      ((blueprint.selectingLast repeats).buildIn order') :=
    sameBuild_selectingLast known order'
  have enumerated' := (enumeration_selectingLast_iff known).mp enumerated'
  rcases Classical.em blueprint.Fit with fit | unfit
  · left
    have canonical : ∀ {order}, blueprint.Enumeration order →
        blueprint.buildIn order = blueprint.build :=
      buildIn_eq_build fun bad => absurd bad (fit _ _)
    rwa [canonical enumerated, ← canonical enumerated']
  · obtain ⟨spec, fault, bad, failed⟩ := exists_unfit_of_not_fit known unfit enumerated
    obtain ⟨spec', fault', bad', failed'⟩ := exists_unfit_of_not_fit known unfit enumerated'
    rw [failed'] at same
    rw [failed]
    by_cases one : spec = spec'
    · subst one
      left
      rwa [bad.unique bad']
    · exact Or.inr ⟨spec, spec', fault, fault', one, bad, bad', rfl, same.eq_error⟩

/-- Only the last selection of a profile counts. Without an earlier one the sources resolve alike, and
the same build goes on: it goes through the same keys, and ends with one error or with stores that
differ in the names of their profiles at most. The order of the keys is left to chance. Builds in two
different orders still end alike, unless two keys have values that do not fit and each build reports
one of them. -/
theorem build_selectingLast (blueprint : Blueprint) (repeats : String → Bool)
    (known : blueprint.Known) :
    (∃ declared kept, blueprint.declaration = .ok declared ∧
      (blueprint.selectingLast repeats).declaration = .ok kept ∧
      kept.resolve = declared.resolve) ∧
    SameBuild blueprint.build (blueprint.selectingLast repeats).build ∧
    (∀ order order', blueprint.Enumeration order →
      (blueprint.selectingLast repeats).Enumeration order' →
      SameBuild (blueprint.buildIn order) ((blueprint.selectingLast repeats).buildIn order') ∨
      ∃ spec spec' fault fault', spec ≠ spec' ∧ blueprint.Unfit spec fault ∧
        blueprint.Unfit spec' fault' ∧ blueprint.buildIn order = .error fault ∧
        (blueprint.selectingLast repeats).buildIn order' = .error fault') ∧
    ∀ store kept, blueprint.build = .ok store →
      (blueprint.selectingLast repeats).build = .ok kept →
      store.profiles = (if blueprint.profiles = [] then [Profile.defaultName]
        else blueprint.profiles) ∧
      kept.profiles = if blueprint.profiles = [] then [Profile.defaultName]
        else lastOnly repeats blueprint.profiles := by
  have known' : (blueprint.selectingLast repeats).Known := known_selectingLast_iff.mpr known
  refine ⟨⟨_, _, declaration_of_known known, declaration_of_known known',
    blueprint.resolve_selectingLast repeats⟩, ?_,
    fun order order' => sameBuild_or_unfit known, ?_⟩
  · rw [build_eq_buildIn, build_eq_buildIn, resolve_selectingLast]
    exact sameBuild_selectingLast known _
  · intro store kept success success'
    refine ⟨(build_eq_ok_iff.mp success).profiles, ?_⟩
    rw [(build_eq_ok_iff.mp success').profiles]
    exact if_congr lastOnly_eq_nil_iff rfl rfl

/-- The profile of the region comes between the two selections of another image. Only the second
selection stays, after it. -/
theorem build_selectingLast_image : (∃ declared kept,
      (stack ["legacy-ami", "us-west-1", "legacy-ami"]).declaration = .ok declared ∧
      (stack ["us-west-1", "legacy-ami"]).declaration = .ok kept ∧
      kept.resolve = declared.resolve) ∧
    SameBuild (stack ["legacy-ami", "us-west-1", "legacy-ami"]).build
      (stack ["us-west-1", "legacy-ami"]).build := by
  have known : ∀ name ∈ ["legacy-ami", "us-west-1", "legacy-ami"],
      name ∈ Registry.standard.names := by
    decide +kernel
  obtain ⟨sources, same, -⟩ := build_selectingLast (stack ["legacy-ami", "us-west-1", "legacy-ami"])
    (fun _ => true) fun name selected => KeyMap.mem_keys_iff.mp (known name selected)
  exact ⟨sources, same⟩

-- Without the second selection the image would be that of the region.
example : (stack ["legacy-ami", "us-west-1"]).final? "NIMBUS_AMI" ≠
    (stack ["legacy-ami", "us-west-1", "legacy-ami"]).final? "NIMBUS_AMI" := by
  decide +kernel

end Blueprint

end LaunchConfig
