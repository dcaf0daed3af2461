import LaunchConfig.Proofs.Standard
import Mathlib.Data.List.Induction

/-!
Profiles of regions. A profile is laid over whatever was selected before it. The profile of Northern
California assigns every key of a region; the profile of Oregon assigns nothing, since the manifest
has the settings of Oregon already. So a stack of profiles stands in California as soon as that
profile is in it, and selecting Oregon afterwards does not bring it back.
-/
namespace LaunchConfig

inductive Region
  | oregon
  | california
  deriving DecidableEq

namespace Region

def ofProfile? (name : String) : Option Region :=
  if name = Profile.california.name then some california
  else if name = Profile.oregon.name then some oregon
  else none

/-- The declaration that has the settings of a region. -/
def settings : Region → Declaration
  | oregon => .manifest
  | california => Profile.california.overrides

def keys : List String :=
  ["EC2_LOCATION", "UBUNTU_AMI", "KEY_NAME", "SECURITY_GROUP", "CONTROLLER_INSTANCE_TYPE",
    "WORKER_INSTANCE_TYPE", "PLACEMENT", "PLACEMENT_GROUP"]

def last? (profiles : List String) : Option Region :=
  (profiles.filterMap ofProfile?).getLast?

/-- The region where a stack of profiles stands. -/
def ofStack (profiles : List String) : Region :=
  if Profile.california.name ∈ profiles then california else oregon

end Region

/-- Under the keys of a region a store has the settings of that region. -/
def Store.StandsIn (store : Store) (region : Region) : Prop :=
  ∀ key ∈ Region.keys, ∃ value, region.settings.value? key = some value ∧
    store.value key = .ok value

theorem Store.StandsIn.unique {store : Store} {region other : Region}
    (stands : store.StandsIn region) (stands' : store.StandsIn other) : region = other := by
  obtain ⟨value, assigned, read⟩ := stands "EC2_LOCATION" (by decide)
  obtain ⟨value', assigned', read'⟩ := stands' "EC2_LOCATION" (by decide)
  cases read.symm.trans read'
  have same := assigned.trans assigned'.symm
  cases region <;> cases other
  · rfl
  · exact absurd same (by decide +kernel)
  · exact absurd same (by decide +kernel)
  · rfl

namespace Region

theorem ofStack_of_mem {profiles : List String} (chosen : "us-west-1" ∈ profiles) :
    ofStack profiles = california :=
  if_pos chosen

theorem ofStack_of_notMem {profiles : List String} (absent : "us-west-1" ∉ profiles) :
    ofStack profiles = oregon :=
  if_neg absent

theorem ofStack_append_singleton (before : List String) (name : String) :
    ofStack (before ++ [name]) =
      if name = Profile.california.name then california else ofStack before := by
  by_cases chosen : name = Profile.california.name
  · simp [ofStack, chosen]
  · simp [ofStack, chosen, Ne.symm chosen]

theorem mem_of_last?_california {profiles : List String} (last : last? profiles = some california) :
    "us-west-1" ∈ profiles := by
  obtain ⟨name, selected, named⟩ := List.mem_filterMap.mp (List.mem_of_getLast? last)
  unfold ofProfile? at named
  split at named
  next chosen =>
    subst chosen
    exact selected
  next => split at named <;> cases named

theorem eq_ofStack_iff {profiles : List String} {region : Region}
    (last : last? profiles = some region) :
    region = ofStack profiles ↔ region = california ∨ "us-west-1" ∉ profiles := by
  by_cases chosen : "us-west-1" ∈ profiles
  · simp [ofStack_of_mem chosen, chosen]
  · have oregonian : region = oregon := by
      cases region with
      | oregon => rfl
      | california => exact absurd (mem_of_last?_california last) chosen
    simp [ofStack_of_notMem chosen, chosen, oregonian]

theorem settings_kept (region : Region) : ∀ key ∈ keys,
    (region.settings.value? key).isSome ∧ Store.isDerived key = false ∧
    (region.settings.value? key).map (fun value => (Blueprint.settled key value).value) =
      region.settings.value? key := by
  cases region <;> decide +kernel

/-- Only one of the profiles assigns keys of a region. -/
theorem value?_profile : ∀ pair ∈ Registry.standard.profiles.pairs, ∀ key ∈ keys,
    pair.2.overrides.value? key =
      if pair.1 = Profile.california.name then california.settings.value? key else none := by
  decide +kernel

end Region

namespace Blueprint

theorem sources_select {blueprint : Blueprint} {name : String} {profile : Profile}
    (found : blueprint.registry.profiles.get? name = some profile)
    (bare : blueprint.overlays = []) :
    (blueprint.select name).sources = blueprint.sources.merge profile.overrides := by
  simp [sources, select, Declaration.merge, found, bare]

theorem final?_select (blueprint : Blueprint) {name : String} {profile : Profile}
    (found : blueprint.registry.profiles.get? name = some profile)
    (bare : blueprint.overlays = []) (key : String) :
    (blueprint.select name).final? key =
      (profile.overrides.value? key).or (blueprint.final? key) := by
  rw [final?, sources_select found bare, value?_merge, final?]

/-- What a stack holds under the keys of a region, by selecting its profiles one after the other. -/
theorem final?_stack {profiles : List String}
    (known : ∀ name ∈ profiles, name ∈ Registry.standard.names) {key : String}
    (regional : key ∈ Region.keys) :
    (stack profiles).final? key = (Region.ofStack profiles).settings.value? key := by
  induction profiles using List.reverseRecOn with
  | nil => simp [final?, sources, stack, standard, Region.ofStack, Region.settings]
  | append_singleton before name ih =>
    have before_known : ∀ earlier ∈ before, earlier ∈ Registry.standard.names :=
      fun earlier member => known earlier (List.mem_append_left _ member)
    obtain ⟨profile, found⟩ := Option.isSome_iff_exists.mp
      (KeyMap.mem_keys_iff.mp (known name (by simp)))
    have step : (stack (before ++ [name])).final? key =
        (profile.overrides.value? key).or ((stack before).final? key) :=
      final?_select (stack before) found rfl key
    rw [step, ih before_known, Region.ofStack_append_singleton,
      Region.value?_profile (name, profile) (KeyMap.mem_pairs_iff.mpr found) key regional]
    by_cases chosen : name = Profile.california.name
    · obtain ⟨value, assigned⟩ :=
        Option.isSome_iff_exists.mp (Region.california.settings_kept key regional).1
      simp [chosen, assigned]
    · simp [chosen]

theorem standsIn_stack_iff {profiles : List String} {store : Store}
    (known : ∀ name ∈ profiles, name ∈ Registry.standard.names)
    (success : (stack profiles).build = .ok store) {region : Region} :
    store.StandsIn region ↔ region = Region.ofStack profiles := by
  suffices stands : store.StandsIn (Region.ofStack profiles) from
    ⟨fun stands' => stands'.unique stands, fun same => same ▸ stands⟩
  intro key regional
  obtain ⟨some_, plain, kept⟩ := (Region.ofStack profiles).settings_kept key regional
  obtain ⟨value, assigned⟩ := Option.isSome_iff_exists.mp some_
  rw [assigned, Option.map_some, Option.some.injEq] at kept
  have final := (final?_stack known regional).trans assigned
  exact ⟨value, assigned, kept ▸ value_of_final? success key value final plain⟩

/-- A stack of the profiles makes a store, which has the settings of California when the profile of
California is in the stack, wherever it is, and those of Oregon otherwise. So the last profile of a
region decides exactly when it is California's, or California's is not in the stack. -/
theorem region_of_stack (profiles : List String)
    (known : ∀ name ∈ profiles, name ∈ Registry.standard.names) :
    ∃ store, (stack profiles).build = .ok store ∧
      ("us-west-1" ∈ profiles → store.StandsIn .california) ∧
      ("us-west-1" ∉ profiles → store.StandsIn .oregon) ∧
      ∀ region, Region.last? profiles = some region →
        (store.StandsIn region ↔ region = .california ∨ "us-west-1" ∉ profiles) := by
  obtain ⟨store, success⟩ := exists_build_stack profiles known
  refine ⟨store, success, ?_, ?_, ?_⟩
  · intro chosen
    rw [standsIn_stack_iff known success, Region.ofStack_of_mem chosen]
  · intro absent
    rw [standsIn_stack_iff known success, Region.ofStack_of_notMem absent]
  · intro region last
    rw [standsIn_stack_iff known success, Region.eq_ofStack_iff last]

theorem region_of_moved : ∃ store,
    (∀ name ∈ ["us-west-2", "us-west-1", "legacy-ami"], name ∈ Registry.standard.names) ∧
    (stack ["us-west-2", "us-west-1", "legacy-ami"]).build = .ok store ∧
    Region.last? ["us-west-2", "us-west-1", "legacy-ami"] = some .california ∧
    store.StandsIn .california := by
  have known : ∀ name ∈ ["us-west-2", "us-west-1", "legacy-ami"],
      name ∈ Registry.standard.names := by
    decide +kernel
  obtain ⟨store, success, chosen, -, -⟩ := region_of_stack _ known
  exact ⟨store, known, success, by decide +kernel, chosen (by decide)⟩

/-- Oregon is selected last, and yet the region is California. -/
theorem not_last_of_returned : ∃ store,
    (∀ name ∈ ["us-west-1", "us-west-2"], name ∈ Registry.standard.names) ∧
    (stack ["us-west-1", "us-west-2"]).build = .ok store ∧
    Region.last? ["us-west-1", "us-west-2"] = some .oregon ∧ ¬ store.StandsIn .oregon ∧
    store.value "EC2_LOCATION" = .ok (.text "us-west-1") := by
  have known : ∀ name ∈ ["us-west-1", "us-west-2"], name ∈ Registry.standard.names := by
    decide +kernel
  obtain ⟨store, success⟩ := exists_build_stack _ known
  have stands : store.StandsIn .california := (standsIn_stack_iff known success).mpr rfl
  refine ⟨store, known, success, by decide +kernel, fun stands' => ?_, ?_⟩
  · cases stands.unique stands'
  · obtain ⟨value, assigned, read⟩ := stands "EC2_LOCATION" (by decide)
    have californian : Region.california.settings.value? "EC2_LOCATION" =
        some (.text "us-west-1") := by
      decide +kernel
    cases californian.symm.trans assigned
    exact read

end Blueprint

end LaunchConfig
