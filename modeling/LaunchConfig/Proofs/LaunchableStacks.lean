import LaunchConfig.Proofs.CpuList
import LaunchConfig.Proofs.Launchable
import LaunchConfig.Proofs.RegionProfiles
import LaunchConfig.Proofs.Reload

/-!
Stacks of the profiles that come with the program can be launched. Under a key a stack holds one of
the few settings that the manifest and the profiles have for it, so a rule about one key holds of
every stack as soon as it holds of these settings. The zone is judged by the region, and there the
settings alone do not tell: a zone of Oregon would not do in California. But the two keys change
together, since they belong to the region where the stack stands.
-/
namespace LaunchConfig

section Rules

open Text Validation

instance : DecidablePred NotBlank := fun text =>
  decidable_of_iff (isBlankText text = false) isBlankText_eq_false_iff

instance : DecidablePred IsRegionName := fun name =>
  decidable_of_iff (isRegion name = true) isRegion_iff

instance : DecidablePred IsImageName := fun name =>
  decidable_of_iff (isImage name = true) isImage_iff

instance (region : String) : DecidablePred (Deployment.IsZone region) := fun zone =>
  decidable_of_iff (Deployment.isZoneOf region zone = true) Deployment.isZoneOf_iff

instance : DecidablePred Build.IsRelative := fun path =>
  inferInstanceAs (Decidable (NotBlank path ∧ _))

instance : DecidablePred Build.IsLibrary := fun name =>
  decidable_of_iff (Build.library "" name = .ok ()) Build.library_eq_ok_iff

/-- A text that lists at least one processor. -/
def ListsCpus (words : String) : Prop :=
  ∃ set, CpuSet.parse words = .ok set ∧ set.cpus ≠ []

-- The parts of the text tell; there is no need to sort what they name.
theorem listsCpus_iff {words : String} :
    ListsCpus words ↔ (CpuSet.parse words).isOk ∧ CpuSet.listed words ≠ [] := by
  constructor
  · rintro ⟨set, parsed, some⟩
    exact ⟨by rw [parsed]; rfl, mt (CpuSet.cpus_eq_nil_iff parsed).mpr some⟩
  · rintro ⟨success, some⟩
    rcases ok_or_error (CpuSet.parse words) with ⟨set, parsed⟩ | ⟨fault, failed⟩
    · exact ⟨set, parsed, mt (CpuSet.cpus_eq_nil_iff parsed).mp some⟩
    · rw [failed] at success
      cases success

instance : DecidablePred ListsCpus := fun _ =>
  decidable_of_iff _ listsCpus_iff.symm

end Rules

namespace Value

def IsText (rule : String → Prop) : Value → Prop
  | text words => rule words
  | _ => False

def IsCount (rule : Int → Prop) : Value → Prop
  | integer held => rule held.toInt
  | _ => False

def IsPeriod : Value → Prop
  | seconds held => 0 < held.toNat
  | _ => False

instance {rule : String → Prop} [DecidablePred rule] : DecidablePred (IsText rule)
  | text words => inferInstanceAs (Decidable (rule words))
  | null | boolean _ | integer _ | seconds _ => .isFalse id

instance {rule : Int → Prop} [DecidablePred rule] : DecidablePred (IsCount rule)
  | integer held => inferInstanceAs (Decidable (rule held.toInt))
  | null | boolean _ | text _ | seconds _ => .isFalse id

instance : DecidablePred IsPeriod
  | seconds held => inferInstanceAs (Decidable (0 < held.toNat))
  | null | boolean _ | integer _ | text _ => .isFalse id

theorem IsText.exists {rule : String → Prop} {value : Value} (holds : value.IsText rule) :
    ∃ words, value = text words ∧ rule words := by
  cases value with
  | text words => exact ⟨words, rfl, holds⟩
  | _ => cases holds

theorem IsCount.exists {rule : Int → Prop} {value : Value} (holds : value.IsCount rule) :
    ∃ held : Int64, value = integer held ∧ rule held.toInt := by
  cases value with
  | integer held => exact ⟨held, rfl, holds⟩
  | _ => cases holds

end Value

namespace Blueprint

/-- Whatever the manifest or one of the profiles assigns. -/
def pool : List (String × Value) :=
  Declaration.manifest.assignments ++
    Registry.standard.profiles.pairs.flatMap fun profile => profile.2.overrides.assignments

/-- The settings that the manifest and the profiles have for a key. -/
def choices (key : String) : List Value :=
  (pool.filter fun pair => pair.1 = key).map fun pair => (settled pair.1 pair.2).value

/-- A key that every stack holds, and a rule of all settings that it can have there. -/
def Always (key : String) (rule : Value → Prop) : Prop :=
  (∃ spec ∈ Schema.required, spec.key = key) ∧ ∀ value ∈ choices key, rule value

instance {key : String} {rule : Value → Prop} [DecidablePred rule] : Decidable (Always key rule) :=
  inferInstanceAs (Decidable (_ ∧ _))

theorem mem_pool_stack (profiles : List String) :
    ∀ pair ∈ (stack profiles).sources.assignments, pair ∈ pool :=
  stack_induction (fun _ assigned => List.mem_append_left _ assigned)
    (fun profile chosen _ assigned =>
      List.mem_append_right _ (List.mem_flatMap.mpr ⟨profile, chosen, assigned⟩)) profiles

theorem mem_choices_of_pool {pair : String × Value} (member : pair ∈ pool) :
    (settled pair.1 pair.2).value ∈ choices pair.1 :=
  List.mem_map.mpr ⟨pair, List.mem_filter.mpr ⟨member, decide_eq_true rfl⟩, rfl⟩

section Rules

variable {profiles : List String} {store : Store} (success : (stack profiles).build = .ok store)
  {key : String}
include success

theorem exists_value_of_always {rule : Value → Prop} (always : Always key rule) :
    ∃ value, store.value key = .ok value ∧ rule value := by
  obtain ⟨⟨spec, required, rfl⟩, every⟩ := always
  obtain ⟨inTable, plain⟩ := List.mem_filter.mp required
  have built := build_eq_ok_iff.mp success
  obtain ⟨value, stored, -⟩ := (Store.sound_of_built built).stored spec.key
    (Schema.lookup?_eq_some_iff.mpr ⟨inTable, rfl⟩) (by simpa using plain)
  obtain ⟨assigned, member, rfl⟩ := built.exists_assigned stored
  have chosen := mem_choices_of_pool (mem_pool_stack profiles _ member)
  exact ⟨_, Store.value_of_stored stored, every _ chosen⟩

theorem textMeets_stack {rule : String → Prop} (always : Always key (Value.IsText rule)) :
    store.TextMeets key rule := by
  obtain ⟨value, read, meets⟩ := exists_value_of_always success always
  obtain ⟨words, rfl, meets⟩ := meets.exists
  exact ⟨words, read, meets⟩

theorem offOrMeets_stack {rule : String → Prop}
    (always : Always key fun value => value = .null ∨ value.IsText rule) :
    store.OffOrMeets key rule := by
  obtain ⟨value, read, meets⟩ := exists_value_of_always success always
  rcases meets with rfl | meets
  · exact Or.inl read
  · obtain ⟨words, rfl, meets⟩ := meets.exists
    exact Or.inr ⟨words, read, meets⟩

theorem counts_stack {count : Nat} (always : Always key (Value.IsCount (· = count))) :
    store.Counts key count := by
  obtain ⟨value, read, meets⟩ := exists_value_of_always success always
  obtain ⟨held, rfl, same⟩ := meets.exists
  exact ⟨held, read, same⟩

theorem countsUpTo_stack {limit : Nat}
    (always : Always key (Value.IsCount fun count => 1 ≤ count ∧ count ≤ limit)) :
    store.CountsUpTo limit key := by
  obtain ⟨value, read, meets⟩ := exists_value_of_always success always
  obtain ⟨held, rfl, positive, small⟩ := meets.exists
  exact ⟨held.toInt.toNat, ⟨held, read, by omega⟩, by omega, by omega⟩

-- The period is right even while its feature is off.
theorem repeats_stack {period : String} (always : Always period Value.IsPeriod) (feature : String) :
    store.Repeats feature period := by
  intro _
  obtain ⟨value, read, meets⟩ := exists_value_of_always success always
  cases value with
  | seconds held => exact ⟨held, read, meets⟩
  | _ => cases meets

end Rules

end Blueprint

namespace Store.StandsIn

variable {store : Store} {region : Region}

theorem value (stands : store.StandsIn region) {key : String} (regional : key ∈ Region.keys)
    {held : Value} (assigned : region.settings.value? key = some held) :
    store.value key = .ok held := by
  obtain ⟨other, assigned', read⟩ := stands key regional
  cases assigned.symm.trans assigned'
  exact read

/-- Oregon has a zone of its own, and California has none. -/
theorem zone (stands : store.StandsIn region) : store.TextMeets "EC2_LOCATION" fun name =>
    store.OffOrMeets "PLACEMENT" (Deployment.IsZone name) := by
  cases region with
  | oregon =>
    exact ⟨"us-west-2", stands.value (by decide) (by decide +kernel), .inr ⟨"us-west-2c",
      stands.value (by decide) (by decide +kernel), by decide +kernel⟩⟩
  | california =>
    exact ⟨"us-west-1", stands.value (by decide) (by decide +kernel),
      .inl (stands.value (by decide) (by decide +kernel))⟩

end Store.StandsIn

namespace Blueprint

section Sections

variable {profiles : List String} {store : Store}
  (success : (stack profiles).build = .ok store)
include success

theorem launchable_deployment (known : ∀ name ∈ profiles, name ∈ Registry.standard.names) :
    Deployment.Launchable store where
  region := textMeets_stack success (by decide +kernel)
  ubuntuImage := textMeets_stack success (by decide +kernel)
  nimbusImage := textMeets_stack success (by decide +kernel)
  keyName := textMeets_stack success (by decide +kernel)
  securityGroup := textMeets_stack success (by decide +kernel)
  controllerType := textMeets_stack success (by decide +kernel)
  workerType := textMeets_stack success (by decide +kernel)
  placement := ((standsIn_stack_iff known success).mpr rfl).zone
  placementGroup := offOrMeets_stack success (by decide +kernel)

theorem launchable_controller : Controller.Launchable store where
  assignerThreads := countsUpTo_stack success (by decide +kernel)
  assignBatch := countsUpTo_stack success (by decide +kernel)
  commandBatch := countsUpTo_stack success (by decide +kernel)
  firstPort := countsUpTo_stack success (by decide +kernel)
  balancing := repeats_stack success (by decide +kernel) _
  faultTolerance := repeats_stack success (by decide +kernel) _

theorem launchable_simulation : Simulation.Launchable store where
  scale := countsUpTo_stack success (by decide +kernel)
  partitions := ⟨1024, counts_stack success (by decide +kernel), {
    x := countsUpTo_stack success (by decide +kernel)
    y := countsUpTo_stack success (by decide +kernel)
    z := countsUpTo_stack success (by decide +kernel) }⟩
  projection := ⟨1024, counts_stack success (by decide +kernel), {
    x := countsUpTo_stack success (by decide +kernel)
    y := countsUpTo_stack success (by decide +kernel)
    z := countsUpTo_stack success (by decide +kernel) }⟩
  frames := countsUpTo_stack success (by decide +kernel)
  threads := countsUpTo_stack success (by decide +kernel)
  batch := ⟨100, counts_stack success (by decide +kernel),
    countsUpTo_stack success (by decide +kernel)⟩
  iterations := countsUpTo_stack success (by decide +kernel)
  cpus := by
    have listed : store.TextMeets "WORKER_TASKSET" ListsCpus :=
      textMeets_stack success (by decide +kernel)
    obtain ⟨words, read, set, parsed, some⟩ := listed
    exact ⟨words, read, set, parsed, fun _ => some⟩

theorem launchable_logFiles : LogFiles.Launchable store where
  outputPath := textMeets_stack success (by decide +kernel)
  names := by
    have always : ∀ key ∈ ["STD_OUT_LOG", "LOAD_BALANCER_LOG", "SCHED_PER_ITER_STAT_LOG",
        "WORKER_LB_LOG", "WORKER_FINAL_STAT_LOG", "WORKER_PER_ITER_STAT_LOG"],
        Always key (Value.IsText fun name => Text.NotBlank name ∧ '/' ∉ name.toList) := by
      decide +kernel
    exact fun key named => textMeets_stack success (always key named)

theorem launchable_build : Build.Launchable store where
  sourceRoot := textMeets_stack success (by decide +kernel)
  instanceRoot := textMeets_stack success (by decide +kernel)
  applicationPath := textMeets_stack success (by decide +kernel)
  schedulerPath := textMeets_stack success (by decide +kernel)
  workerPath := textMeets_stack success (by decide +kernel)
  nimbusLibrary := textMeets_stack success (by decide +kernel)
  applicationLibrary := textMeets_stack success (by decide +kernel)
  schedulerBinary := textMeets_stack success (by decide +kernel)
  workerBinary := textMeets_stack success (by decide +kernel)

theorem launchable_stack (known : ∀ name ∈ profiles, name ∈ Registry.standard.names) :
    store.Launchable where
  deployment := launchable_deployment success known
  controller := launchable_controller success
  simulation := launchable_simulation success
  logFiles := launchable_logFiles success
  build := launchable_build success

end Sections

/-- Every stack of the profiles can be launched, however long it is and whatever is repeated in it. It
makes one store in all orders of its keys; the sections of the store can be read and obey all rules,
it can be written as a document, and it is labelled with the names of the profiles. -/
theorem stack_launches (profiles : List String)
    (known : ∀ name ∈ profiles, name ∈ Registry.standard.names) :
    ∃ store cluster text, (stack profiles).build = .ok store ∧
      (∀ order, (stack profiles).Enumeration order → (stack profiles).buildIn order = .ok store) ∧
      Cluster.ofStore store = .ok cluster ∧ cluster.validate = .ok () ∧
      store.tomlText = .ok text ∧
      store.profiles = if profiles = [] then ["us-west-2"] else profiles := by
  obtain ⟨store, text, success, printed⟩ := exists_text_stack profiles known
  have built := build_eq_ok_iff.mp success
  have sound := Store.sound_of_built built
  have launchable := launchable_stack success known
  obtain ⟨cluster, read⟩ := Cluster.exists_of_launchable sound launchable
  have valid := (Cluster.launchable_iff_valid sound read).mp launchable
  refine ⟨store, cluster, text, success, fun order enumerated => ?_, read,
    Cluster.validate_eq_ok_iff.mpr valid, printed, built.profiles⟩
  rw [built.ready.buildIn_eq_build enumerated, success]

theorem stack_launches_repeated : ∃ store cluster text,
    (∀ name ∈ ["us-west-1", "legacy-ami", "us-west-2", "us-west-1", "physbam-layout"],
      name ∈ Registry.standard.names) ∧
    (stack ["us-west-1", "legacy-ami", "us-west-2", "us-west-1", "physbam-layout"]).build =
      .ok store ∧
    Cluster.ofStore store = .ok cluster ∧ cluster.validate = .ok () ∧
    store.tomlText = .ok text ∧
    store.profiles = ["us-west-1", "legacy-ami", "us-west-2", "us-west-1", "physbam-layout"] := by
  have known : ∀ name ∈ ["us-west-1", "legacy-ami", "us-west-2", "us-west-1", "physbam-layout"],
      name ∈ Registry.standard.names := by
    decide +kernel
  obtain ⟨store, cluster, text, success, -, read, valid, printed, profiles⟩ :=
    stack_launches _ known
  exact ⟨store, cluster, text, known, success, read, valid, printed, profiles⟩

end Blueprint

end LaunchConfig
