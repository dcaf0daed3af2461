import LaunchConfig.Proofs.Overlay
import LaunchConfig.Proofs.Resolution
import LaunchConfig.Proofs.TomlDocument

/-!
Which tables are overlays. The list of switched-off keys is looked at first, then the other keys in
ascending order, and the first fault is the one that is reported. What an overlay assigns does not
depend on the order of its assignments.
-/
namespace LaunchConfig.Declaration

/-- The table switches these keys off, in this order. Without a list it switches off none. -/
inductive Lists (table : KeyMap Toml) : List String → Prop
  | absent (absent : table.get? "disabled" = none) : Lists table []
  | listed {names : List String}
      (listed : table.get? "disabled" = some (.array (names.map .text))) : Lists table names

/-- Why there is no list of switched-off keys: it is no array, or this is its first item that is no
text. -/
inductive ListFault (table : KeyMap Toml) : ParseFault → Prop
  | noArray {held : Toml} (listed : table.get? "disabled" = some held)
      (other : ∀ items, held ≠ .array items) : ListFault table (.disabledList held.inline)
  | noText {before : List String} {item : Toml} {after : List Toml}
      (listed : table.get? "disabled" = some (.array (before.map .text ++ item :: after)))
      (other : ∀ name, item ≠ .text name) : ListFault table (.disabledEntry item.inline)

/-- Why a key may not stand in the table. That it is switched off too comes before its value. -/
inductive KeyFault (names : List String) (key : String) (held : Toml) : ConfigError → Prop
  | both (listed : key ∈ names) : KeyFault names key held (.invalidValue key .declaredAndDisabled)
  | unsupported (fresh : key ∉ names) (parts : held.plain? = none) :
      KeyFault names key held (.parse (.unsupported key held.kindName))

/-- The key has a value that can be assigned, and is not switched off. -/
def Admits (names : List String) (key : String) (held : Toml) : Prop :=
  key ∉ names ∧ held.plain?.isSome

/-- The table is an overlay that switches these keys off. -/
structure Flat (table : KeyMap Toml) (names : List String) : Prop where
  lists : Lists table names
  admits : ∀ key held, key ≠ "disabled" → table.get? key = some held → Admits names key held

/-- Why a table is no overlay. Of several keys that may not stand in it, the first is reported. -/
inductive Refused (table : KeyMap Toml) : ConfigError → Prop
  | list {cause : ParseFault} (bad : ListFault table cause) : Refused table (.parse cause)
  | key {names : List String} {key : String} {held : Toml} {fault : ConfigError}
      (lists : Lists table names) (other : key ≠ "disabled") (own : table.get? key = some held)
      (bad : KeyFault names key held fault)
      (first : ∀ earlier held', earlier < key → earlier ≠ "disabled" →
        table.get? earlier = some held' → Admits names earlier held') : Refused table fault

section Lists

variable {items : List Toml} {names : List String} {table : KeyMap Toml} {fault : ConfigError}

theorem disabledName_eq_ok_iff {item : Toml} {name : String} :
    disabledName item = .ok name ↔ item = .text name := by
  cases item <;> simp [disabledName]

theorem disabledName_eq_error_iff {item : Toml} :
    disabledName item = .error fault ↔
      (∀ name, item ≠ .text name) ∧ fault = .parse (.disabledEntry item.inline) := by
  cases item <;> simp [disabledName, eq_comm]

theorem mapM_disabledName_eq_ok_iff :
    items.mapM disabledName = .ok names ↔ items = names.map .text := by
  constructor
  · intro success
    induction items generalizing names with
    | nil =>
      cases success
      rfl
    | cons item rest ih =>
      rw [mapM_cons_eq] at success
      obtain ⟨name, first, success⟩ := bind_eq_ok_iff.mp success
      obtain ⟨others, tail, same⟩ := bind_eq_ok_iff.mp success
      cases same
      rw [List.map_cons, disabledName_eq_ok_iff.mp first, ih tail]
  · rintro rfl
    exact mapM_disabledName names

theorem exists_names_iff : (∀ item ∈ items, ∃ name, disabledName item = .ok name) ↔
    ∃ names : List String, items = names.map Toml.text := by
  simp only [disabledName_eq_ok_iff]
  constructor
  · exact Toml.exists_map_text
  · rintro ⟨names, rfl⟩ item member
    obtain ⟨name, -, rfl⟩ := List.mem_map.mp member
    exact ⟨name, rfl⟩

theorem mapM_disabledName_eq_error_iff : items.mapM disabledName = .error fault ↔
    ∃ (before : List String) (item : Toml) (after : List Toml),
      items = before.map .text ++ item :: after ∧ (∀ name, item ≠ .text name) ∧
        fault = .parse (.disabledEntry item.inline) := by
  simp only [mapM_eq_error_iff, exists_names_iff, disabledName_eq_error_iff]
  constructor
  · rintro ⟨_, item, after, whole, ⟨before, rfl⟩, bad⟩
    exact ⟨before, item, after, whole, bad⟩
  · rintro ⟨before, item, after, whole, bad⟩
    exact ⟨_, item, after, whole, ⟨before, rfl⟩, bad⟩

theorem disabledNames_eq_ok_iff : disabledNames table = .ok names ↔ Lists table names := by
  unfold disabledNames
  constructor
  · intro success
    split at success
    next absent =>
      cases success
      exact .absent absent
    next items listed =>
      rw [mapM_disabledName_eq_ok_iff.mp success] at listed
      exact .listed listed
    next => cases success
  · intro lists
    cases lists with
    | absent absent => simp only [disabledKey, absent]
    | listed listed => simp only [disabledKey, listed, mapM_disabledName]

theorem disabledNames_eq_error_iff : disabledNames table = .error fault ↔
    ∃ cause, ListFault table cause ∧ fault = .parse cause := by
  unfold disabledNames
  constructor
  · intro failed
    split at failed
    next => cases failed
    next items listed =>
      obtain ⟨before, item, after, rfl, other, rfl⟩ := mapM_disabledName_eq_error_iff.mp failed
      exact ⟨_, .noText listed other, rfl⟩
    next held other listed =>
      cases failed
      exact ⟨_, .noArray listed other, rfl⟩
  · rintro ⟨cause, unlisted, rfl⟩
    cases unlisted with
    | noText listed other =>
      simp only [disabledKey, listed]
      exact mapM_disabledName_eq_error_iff.mpr ⟨_, _, _, rfl, other, rfl⟩
    | noArray listed other =>
      simp only [disabledKey, listed]

end Lists

section Keys

variable {names : List String} {table : KeyMap Toml} {key : String} {held : Toml}
  {fault : ConfigError}

theorem exists_assignedValue_iff :
    (∃ value, assignedValue names key held = .ok value) ↔ Admits names key held := by
  simp only [assignedValue_eq_ok_iff, Admits, exists_and_left, Option.isSome_iff_exists]

theorem assignedValue_of_fresh (fresh : key ∉ names) : assignedValue names key held =
    match held.plain? with
    | some value => .ok value
    | none => .error (.parse (.unsupported key held.kindName)) := by
  apply (if_neg fresh).trans
  cases held <;> rfl

theorem assignedValue_eq_error_iff :
    assignedValue names key held = .error fault ↔ KeyFault names key held fault := by
  constructor
  · intro failed
    by_cases listed : key ∈ names
    · cases (if_pos listed).symm.trans failed
      exact .both listed
    · rw [assignedValue_of_fresh listed] at failed
      cases parts : held.plain? with
      | some value =>
        rw [parts] at failed
        cases failed
      | none =>
        rw [parts] at failed
        cases failed
        exact .unsupported listed parts
  · intro bad
    cases bad with
    | both listed => exact if_pos listed
    | unsupported fresh parts => rw [assignedValue_of_fresh fresh, parts]

theorem mem_others_iff : (key, held) ∈ (table.erase disabledKey).pairs ↔
    key ≠ "disabled" ∧ table.get? key = some held := by
  rw [KeyMap.mem_pairs_iff, KeyMap.get?_erase, disabledKey]
  by_cases reserved : key = "disabled" <;> simp [reserved]

-- The keys are gone through in ascending order, so the first that fails is the least.
theorem mapM_assigned_eq_error_iff :
    ((table.erase disabledKey).pairs.mapM fun pair =>
      assignedValue names pair.1 pair.2 >>= fun value => .ok (pair.1, value)) = .error fault ↔
      ∃ key held, key ≠ "disabled" ∧ table.get? key = some held ∧ KeyFault names key held fault ∧
        ∀ earlier held', earlier < key → earlier ≠ "disabled" →
          table.get? earlier = some held' → Admits names earlier held' := by
  have sorted := (table.erase disabledKey).ascending
  rw [mapM_eq_error_iff]
  constructor
  · rintro ⟨before, ⟨key, held⟩, after, split, fine, bad⟩
    rw [bind_eq_error_iff_of_rest fun _ => ⟨_, rfl⟩, assignedValue_eq_error_iff] at bad
    have inside : (key, held) ∈ (table.erase disabledKey).pairs := by simp [split]
    obtain ⟨other, own⟩ := mem_others_iff.mp inside
    refine ⟨key, held, other, own, bad, ?_⟩
    intro earlier held' below other' own'
    rw [split] at sorted
    have member : (earlier, held') ∈ before := by
      rw [mem_before_iff sorted, ← split, mem_others_iff]
      exact ⟨⟨other', own'⟩, below⟩
    obtain ⟨result, done⟩ := fine _ member
    obtain ⟨value, assigned, -⟩ := bind_eq_ok_iff.mp done
    exact exists_assignedValue_iff.mp ⟨value, assigned⟩
  · rintro ⟨key, held, other, own, bad, first⟩
    obtain ⟨before, after, split⟩ := List.append_of_mem (mem_others_iff.mpr ⟨other, own⟩)
    rw [split] at sorted
    refine ⟨before, (key, held), after, split, ?_, ?_⟩
    · rintro ⟨earlier, held'⟩ member
      rw [mem_before_iff sorted, ← split, mem_others_iff] at member
      obtain ⟨⟨other', own'⟩, below⟩ := member
      obtain ⟨value, assigned⟩ :=
        exists_assignedValue_iff.mpr (first earlier held' below other' own')
      exact ⟨(earlier, value), bind_eq_ok_iff.mpr ⟨value, assigned, rfl⟩⟩
    · rw [bind_eq_error_iff_of_rest fun _ => ⟨_, rfl⟩, assignedValue_eq_error_iff]
      exact bad

theorem ofTable_eq_error_iff : ofTable table = .error fault ↔ Refused table fault := by
  constructor
  · intro failed
    rcases bind_eq_error_iff.mp failed with failed | ⟨names, listed, failed⟩
    · obtain ⟨cause, bad, rfl⟩ := disabledNames_eq_error_iff.mp failed
      exact .list bad
    · have walked := (bind_eq_error_iff_of_rest fun _ => ⟨_, rfl⟩).mp failed
      obtain ⟨key, held, other, own, bad, first⟩ := mapM_assigned_eq_error_iff.mp walked
      exact .key (disabledNames_eq_ok_iff.mp listed) other own bad first
  · intro refused
    apply bind_eq_error_iff.mpr
    cases refused with
    | list bad => exact Or.inl (disabledNames_eq_error_iff.mpr ⟨_, bad, rfl⟩)
    | key lists other own bad first =>
      have walked := mapM_assigned_eq_error_iff.mpr ⟨_, _, other, own, bad, first⟩
      refine Or.inr ⟨_, disabledNames_eq_ok_iff.mpr lists, ?_⟩
      exact bind_eq_error_iff.mpr (Or.inl walked)

end Keys

section Assignments

variable {names : List String} {table : KeyMap Toml} {declaration : Declaration}

theorem ofTable_eq_ok_iff_flat : ofTable table = .ok declaration ↔
    ∃ names, Flat table names ∧ declaration = overlaid table names := by
  rw [ofTable_eq_ok_iff]
  refine exists_congr fun names => ?_
  rw [disabledNames_eq_ok_iff]
  constructor
  · rintro ⟨lists, plain, same⟩
    refine ⟨⟨lists, ?_⟩, same⟩
    intro key held other own
    exact plain _ (mem_others_iff.mpr ⟨other, own⟩)
  · rintro ⟨flat, same⟩
    refine ⟨flat.lists, ?_, same⟩
    rintro ⟨key, held⟩ member
    obtain ⟨other, own⟩ := mem_others_iff.mp member
    exact flat.admits key held other own

/-- The assignments of the keys that stand in the table, each key once and in ascending order. -/
structure Own (table : KeyMap Toml) (own : List (String × Value)) : Prop where
  ascending : own.Pairwise fun left right => left.1 < right.1
  values : ∀ key value, (key, value) ∈ own ↔
    key ≠ "disabled" ∧ ∃ held, table.get? key = some held ∧ held.plain? = some value

theorem Flat.own (flat : Flat table names) : Own table
    ((table.erase disabledKey).pairs.map fun pair => (pair.1, pair.2.plain?.getD .null)) := by
  constructor
  · rw [List.pairwise_map]
    exact (table.erase disabledKey).ascending
  · intro key value
    simp only [List.mem_map, Prod.exists, mem_others_iff, Prod.mk.injEq]
    constructor
    · rintro ⟨_, held, ⟨other, own⟩, rfl, rfl⟩
      obtain ⟨value, plain⟩ := Option.isSome_iff_exists.mp (flat.admits _ held other own).2
      exact ⟨other, held, own, by rw [plain, Option.getD_some]⟩
    · rintro ⟨other, held, own, plain⟩
      exact ⟨key, held, ⟨other, own⟩, rfl, by rw [plain, Option.getD_some]⟩

/-- Every assignment of an overlay is the one that counts for its key. -/
theorem Flat.value?_of_mem (flat : Flat table names) {key : String} {value : Value}
    (member : (key, value) ∈ (overlaid table names).assignments) :
    (overlaid table names).value? key = some value := by
  rw [value?_overlaid]
  rcases List.mem_append.mp member with own | off
  · obtain ⟨other, held, own, plain⟩ := (flat.own.values key value).mp own
    have fresh := (flat.admits key held other own).1
    simp [fresh, disabledKey, other, own, plain]
  · obtain ⟨name, listed, same⟩ := List.mem_map.mp off
    cases same
    simp [listed]

theorem Flat.consistent (flat : Flat table names) : (overlaid table names).Consistent := by
  intro key value value' member member'
  have counts := flat.value?_of_mem member
  exact Option.some.inj (counts.symm.trans (flat.value?_of_mem member'))

theorem exists_ofTable_iff :
    (∃ declaration, ofTable table = .ok declaration) ↔ ∃ names, Flat table names := by
  simp only [ofTable_eq_ok_iff_flat]
  constructor
  · rintro ⟨declaration, names, flat, -⟩
    exact ⟨names, flat⟩
  · rintro ⟨names, flat⟩
    exact ⟨_, names, flat, rfl⟩

end Assignments

/-- A text that is a table is an overlay when the table lists its switched-off keys, if any, by
name, and assigns to other keys nothing but texts, integers and truth values. Then each of these
keys is assigned its value, in ascending order, and after them each listed key a null one, in the
order of the list. A table that is no overlay is refused for its first fault. -/
theorem ofToml_outcome (source : String) (table : KeyMap Toml)
    (parsed : Toml.parse? source = some table) :
    ((∃ declaration, ofToml source = .ok declaration) ↔ ∃ names, Flat table names) ∧
    (∀ declaration, ofToml source = .ok declaration → ∃ names own, Flat table names ∧
      Own table own ∧
      declaration.assignments = own ++ names.map (fun key => (key, .null)) ∧
      (∀ pair ∈ declaration.assignments, ∀ seconds, pair.2 ≠ .seconds seconds) ∧
      declaration.Consistent ∧
      ∀ other : Declaration, other.assignments.Perm declaration.assignments →
        other.resolve = declaration.resolve) ∧
    ∀ fault, ofToml source = .error fault ↔ Refused table fault := by
  have read : ofToml source = ofTable table := by
    unfold ofToml
    rw [parsed]
  rw [read]
  refine ⟨exists_ofTable_iff, ?_, fun fault => ofTable_eq_error_iff⟩
  intro declaration accepted
  obtain ⟨names, flat, rfl⟩ := ofTable_eq_ok_iff_flat.mp accepted
  refine ⟨names, _, flat, flat.own, rfl, ?_, flat.consistent, ?_⟩
  · intro pair assigned
    exact (mem_ofTable accepted assigned).1
  · intro other order
    exact flat.consistent.resolve_eq fun pair => order.mem_iff

-- A key that is switched off too is refused for that, even where its value has no counterpart.
example : ofTable (.ofList [("PLACEMENT", .array []), ("disabled", .array [.text "PLACEMENT"])]) =
    .error (.invalidValue "PLACEMENT" .declaredAndDisabled) := rfl

/-- A larger crew in no placement group, which is listed twice. -/
def crewSource : String :=
  "ACTIVATE_LB = true\nWORKER_NUM = 16\ndisabled = [\"PLACEMENT_GROUP\", \"PLACEMENT_GROUP\"]\n"

def crewTable : KeyMap Toml :=
  .ofList [("ACTIVATE_LB", .boolean true), ("WORKER_NUM", .integer 16),
    ("disabled", .array [.text "PLACEMENT_GROUP", .text "PLACEMENT_GROUP"])]

theorem pairs_crew : crewTable.pairs = [("ACTIVATE_LB", .boolean true),
    ("WORKER_NUM", .integer 16),
    ("disabled", .array [.text "PLACEMENT_GROUP", .text "PLACEMENT_GROUP"])] := rfl

theorem parse?_crew : Toml.parse? crewSource = some crewTable := by
  apply Toml.parse?_document
  · simp [pairs_crew, Toml.Flat]
  · exact Or.inl (by decide)

theorem flat_crew : Flat crewTable ["PLACEMENT_GROUP", "PLACEMENT_GROUP"] := by
  constructor
  · exact .listed rfl
  · intro key held other own
    have member := KeyMap.mem_pairs_iff.mpr own
    simp only [pairs_crew, List.mem_cons, Prod.mk.injEq, List.not_mem_nil, or_false] at member
    rcases member with ⟨rfl, rfl⟩ | ⟨rfl, rfl⟩ | ⟨rfl, rfl⟩
    · exact ⟨by decide, rfl⟩
    · exact ⟨by decide, rfl⟩
    · exact absurd rfl other

theorem ofToml_crew : ∃ declaration, ofToml crewSource = .ok declaration ∧
    declaration.Consistent ∧ ∀ other : Declaration,
      other.assignments.Perm declaration.assignments → other.resolve = declaration.resolve := by
  obtain ⟨accepts, content, -⟩ := ofToml_outcome crewSource crewTable parse?_crew
  obtain ⟨declaration, accepted⟩ := accepts.mpr ⟨_, flat_crew⟩
  obtain ⟨names, own, -, -, -, -, consistent, orderless⟩ := content declaration accepted
  exact ⟨declaration, accepted, consistent, orderless⟩

end LaunchConfig.Declaration
