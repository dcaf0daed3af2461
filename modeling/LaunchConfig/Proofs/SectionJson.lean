import LaunchConfig.Section.Cluster

/-!
The JSON forms of the sections, read back. A form names each field once, so every field finds its
own value again; nothing is asked of a value beyond its type and width.
-/
namespace LaunchConfig

namespace JsonRecord

variable {α : Type} {name : String} {decode : Json → Option α}

@[simp] theorem field?_head (value : Json) (rest : JsonRecord) :
    field? ((name, value) :: rest) name decode = decode value := by
  simp [field?, List.lookup_cons_self]

@[simp] theorem field?_tail {other : String} (differ : name ≠ other) (value : Json)
    (rest : JsonRecord) :
    field? ((other, value) :: rest) name decode = field? rest name decode := by
  simp [field?, List.lookup_cons, beq_false_of_ne differ]

@[simp] theorem optional?_head (held : Option String) (rest : JsonRecord) :
    optional? ((name, Deployment.optionalText held) :: rest) name Json.string? = some held := by
  cases held <;> simp [optional?, List.lookup_cons_self, Deployment.optionalText, Json.string?]

@[simp] theorem optional?_tail {other : String} (differ : name ≠ other) (value : Json)
    (rest : JsonRecord) :
    optional? ((other, value) :: rest) name decode = optional? rest name decode := by
  simp [optional?, List.lookup_cons, beq_false_of_ne differ]

end JsonRecord

namespace Json

/-- A form that names just the fields, each once, is a record of them. -/
theorem record?_named {fields : List String} {members : List (String × Json)}
    (names : members.map Prod.fst = fields) (once : fields.Nodup) :
    (object members).record? fields = some members := by
  subst names
  refine if_pos (List.all_eq_true.mpr fun name _ => decide_eq_true ?_)
  exact List.nodup_iff_count.mp once name

@[simp] theorem boolean?_boolean (held : Bool) : (boolean held).boolean? = some held := rfl

@[simp] theorem string?_string (held : String) : (string held).string? = some held := rfl

@[simp] theorem array?_array (items : List Json) : (array items).array? = some items := rfl

theorem unsigned?_natCast {width n : Nat} (small : n < Nat.pow 2 width) :
    (integer n).unsigned? width = some n := by
  have below : (n : Int) < (Nat.pow 2 width : Nat) := Int.ofNat_lt.mpr small
  simp only [unsigned?, Int.natCast_nonneg, below, and_self, if_true, Int.toNat_natCast]

@[simp] theorem u64?_integer (held : UInt64) : (integer held.toNat).u64? = some held := by
  rw [u64?, unsigned?_natCast held.toNat_lt, Option.map_some, UInt64.ofNat_toNat]

@[simp] theorem u32?_integer (held : UInt32) : (integer held.toNat).u32? = some held := by
  rw [u32?, unsigned?_natCast held.toNat_lt, Option.map_some, UInt32.ofNat_toNat]

@[simp] theorem u16?_integer (held : UInt16) : (integer held.toNat).u16? = some held := by
  rw [u16?, unsigned?_natCast held.toNat_lt, Option.map_some, UInt16.ofNat_toNat]

theorem mapM_u64?_integers (numbers : List UInt64) :
    (numbers.map fun number => integer number.toNat).mapM u64? = some numbers := by
  induction numbers with
  | nil => rfl
  | cons number rest ih => simp [List.mapM_cons, ih]

end Json

-- Not by computation: a step would then be checked by comparing a number with its limit digit by
-- digit. The library's rule is left out below for the same reason.
theorem Json.bind_of_some {α β : Type} (held : α) (rest : α → Option β) :
    (some held >>= rest) = rest held := by
  rw [Option.bind_eq_bind, Option.bind_some]

section Records

open Json (bind_of_some record?_named)

theorem PartitionGrid.ofJson?_toJson (grid : PartitionGrid) : ofJson? grid.toJson = some grid := by
  rw [ofJson?, toJson, record?_named (by rfl) (by simp [fieldNames]), bind_of_some]
  simp [-Option.bind_some, -Option.bind_eq_bind, bind_of_some]

theorem CpuSet.ofJson?_toJson (set : CpuSet) : ofJson? set.toJson = some set := by
  have numbers := Json.mapM_u64?_integers set.cpus
  simp only [List.mapM_map] at numbers
  rw [ofJson?, toJson, record?_named (by rfl) (by simp), bind_of_some]
  simp [-Option.bind_eq_bind, bind_of_some, numbers]

theorem Simulation.ofJson?_toJson (simulation : Simulation) :
    ofJson? simulation.toJson = some simulation := by
  rw [ofJson?, toJson, record?_named (by rfl) (by simp [fieldNames]), bind_of_some]
  simp [-Option.bind_some, -Option.bind_eq_bind, bind_of_some, PartitionGrid.ofJson?_toJson,
    CpuSet.ofJson?_toJson]

-- A nanosecond part below a full second carries nothing.
theorem Duration.ofParts?_self (duration : Duration) :
    ofParts? duration.secs duration.nanos = some duration := by
  obtain ⟨secs, nanos, below⟩ := duration
  have noCarry : nanos.toNat / nanosPerSecond = 0 := Nat.div_eq_of_lt below
  have kept : nanos.toNat % nanosPerSecond = nanos.toNat := Nat.mod_eq_of_lt below
  simp [ofParts?, noCarry, kept, secs.toNat_lt]

theorem Duration.ofJson?_toJson (duration : Duration) :
    ofJson? duration.toJson = some duration := by
  have noOthers : (guard (onlyParts duration.toJson) : Option Unit) = some () := if_pos rfl
  rw [ofJson?, noOthers, bind_of_some, toJson, record?_named (by rfl) (by simp [fieldNames]),
    bind_of_some]
  simp [-Option.bind_some, -Option.bind_eq_bind, bind_of_some, ofParts?_self]

theorem Deployment.ofJson?_toJson (deployment : Deployment) :
    ofJson? deployment.toJson = some deployment := by
  rw [ofJson?, toJson, record?_named (by rfl) (by simp [fieldNames]), bind_of_some]
  simp [-Option.bind_some, -Option.bind_eq_bind, bind_of_some]

theorem Deactivation.ofJson?_toJson (flags : Deactivation) :
    ofJson? flags.toJson = some flags := by
  rw [ofJson?, toJson, record?_named (by rfl) (by simp [fieldNames]), bind_of_some]
  simp [-Option.bind_some, -Option.bind_eq_bind, bind_of_some]

theorem Controller.ofJson?_toJson (controller : Controller) :
    ofJson? controller.toJson = some controller := by
  rw [ofJson?, toJson, record?_named (by rfl) (by simp [fieldNames]), bind_of_some]
  simp [-Option.bind_some, -Option.bind_eq_bind, bind_of_some, Deactivation.ofJson?_toJson,
    Duration.ofJson?_toJson]

theorem LogFiles.ofJson?_toJson (logs : LogFiles) : ofJson? logs.toJson = some logs := by
  rw [ofJson?, toJson, record?_named (by rfl) (by simp [fieldNames]), bind_of_some]
  simp [-Option.bind_some, -Option.bind_eq_bind, bind_of_some]

theorem Build.ofJson?_toJson (build : Build) : ofJson? build.toJson = some build := by
  rw [ofJson?, toJson, record?_named (by rfl) (by simp [fieldNames]), bind_of_some]
  simp [-Option.bind_some, -Option.bind_eq_bind, bind_of_some]

theorem Cluster.ofJson?_toJson (cluster : Cluster) : ofJson? cluster.toJson = some cluster := by
  rw [ofJson?, toJson, record?_named (by rfl) (by simp [fieldNames]), bind_of_some]
  simp [-Option.bind_some, -Option.bind_eq_bind, bind_of_some, Deployment.ofJson?_toJson,
    Controller.ofJson?_toJson, Simulation.ofJson?_toJson, LogFiles.ofJson?_toJson,
    Build.ofJson?_toJson]

end Records

end LaunchConfig
