import LaunchConfig.Proofs.Overlay
import LaunchConfig.Proofs.Store
import LaunchConfig.Proofs.TomlDocument
import LaunchConfig.Store.Export

/-!
The TOML form of a store. Seconds become plain integers and null values become names in the
reserved list; the form exists unless some number of seconds is too large for an integer. Read as
an overlay, the form assigns to each key the value that its TOML form has.
-/
namespace LaunchConfig

namespace Value

/-- A number of seconds beyond the integers of TOML. -/
def TooLong : Value → Prop
  | .seconds held => 2 ^ 63 ≤ held.toNat
  | _ => False

/-- The TOML form of a value that is not too long. -/
def exported? : Value → Option Toml
  | .null => none
  | .boolean held => some (.boolean held)
  | .integer held => some (.integer held)
  | .text held => some (.text held)
  | .seconds held => some (.integer (Int64.ofInt held.toNat))

/-- The value as its TOML form is read. -/
def reread : Value → Value
  | .seconds held => .integer (Int64.ofInt held.toNat)
  | held => held

theorem toToml?_eq_ok {value : Value} (short : ¬ value.TooLong) (key : String) :
    value.toToml? key = .ok value.exported? := by
  cases value with
  | seconds held =>
    have small : held.toNat < 2 ^ 63 := Nat.not_le.mp short
    simp only [toToml?, exported?, Numeral.le_maxSigned_iff, small, if_true]
  | _ => rfl

theorem toToml?_eq_error_iff {value : Value} {key : String} {fault : ConfigError} :
    value.toToml? key = .error fault ↔
      value.TooLong ∧ fault = .invalidValue key .tooLongForToml := by
  cases value with
  | seconds held =>
    by_cases small : held.toNat < 2 ^ 63
    · simp only [toToml?, TooLong, Numeral.le_maxSigned_iff, small, if_true, reduceCtorEq,
        Nat.not_le.mpr small, false_and]
    · simp only [toToml?, TooLong, Numeral.le_maxSigned_iff, small, if_false, Nat.not_lt.mp small,
        Except.error.injEq, true_and, eq_comm]
  | _ => simp [toToml?, TooLong]

theorem exported?_eq_none_iff {value : Value} : value.exported? = none ↔ value = .null := by
  cases value <;> simp [exported?]

theorem plain?_exported {value : Value} {held : Toml} (written : value.exported? = some held) :
    held.plain? = some value.reread ∧ held.Flat := by
  cases value <;> cases written <;> exact ⟨rfl, trivial⟩

end Value

namespace Store

/-- The keys of null values. -/
def hiddenKeys (held : KeyMap Value) : List String :=
  held.pairs.filterMap fun pair => if pair.2.exported?.isNone then some pair.1 else none

def shownTable (held : KeyMap Value) : KeyMap Toml :=
  .ofList (held.pairs.filterMap fun pair => pair.2.exported?.map fun written => (pair.1, written))

def exportTable (held : KeyMap Value) : KeyMap Toml :=
  if (hiddenKeys held).isEmpty then shownTable held
  else (shownTable held).insert Declaration.disabledKey (.array ((hiddenKeys held).map Toml.text))

theorem mem_hiddenKeys_iff {held : KeyMap Value} {key : String} :
    key ∈ hiddenKeys held ↔ held.get? key = some .null := by
  simp [hiddenKeys, KeyMap.mem_pairs_iff, Value.exported?_eq_none_iff]

theorem get?_exportTable (held : KeyMap Value) (key : String) :
    (exportTable held).get? key =
      if key = Declaration.disabledKey ∧ hiddenKeys held ≠ []
      then some (.array ((hiddenKeys held).map Toml.text))
      else (held.get? key).bind Value.exported? := by
  have once := keys_nodup held.ascending
  have shown : (shownTable held).get? key = (held.get? key).bind Value.exported? := by
    rw [shownTable, KeyMap.get?_ofList_of_nodup ((keys_filterMap_sublist _ _).nodup once),
      lookup_filterMap _ once]
    rfl
  unfold exportTable
  by_cases none_ : hiddenKeys held = []
  · simp [none_, shown]
  · by_cases reserved : key = Declaration.disabledKey <;> simp [none_, reserved, shown]

theorem exists_written_iff {pair : String × Value} : (∃ result, (do
    let form ← pair.2.toToml? pair.1
    return (pair.1, form)) = (.ok result : Except ConfigError (String × Option Toml))) ↔
      ¬ pair.2.TooLong := by
  constructor
  · rintro ⟨result, done⟩ long
    rw [Value.toToml?_eq_error_iff.mpr ⟨long, rfl⟩] at done
    cases done
  · intro short
    exact ⟨_, by rw [Value.toToml?_eq_ok short]; rfl⟩

section Exported

variable {store : Store} {held : KeyMap Value} (read : store.snapshot = .ok held)
include read

theorem toTable_eq_ok_iff {table : KeyMap Toml} : store.toTable = .ok table ↔
    (∀ pair ∈ held.pairs, ¬ pair.2.TooLong) ∧ table = exportTable held := by
  have made : (∀ pair ∈ held.pairs, ¬ pair.2.TooLong) → store.toTable = .ok (exportTable held) := by
    intro short
    have steps : ∀ pair ∈ held.pairs,
        (do let form ← pair.2.toToml? pair.1; return (pair.1, form)) =
          (.ok (pair.1, pair.2.exported?) : Except ConfigError (String × Option Toml)) := by
      intro pair member
      rw [Value.toToml?_eq_ok (short pair member)]
      rfl
    have written := mapM_eq_map steps
    unfold toTable
    rw [read, ok_bind, written, ok_bind]
    simp only [List.filterMap_map]
    change (if (hiddenKeys held).isEmpty then Except.ok (shownTable held)
      else Except.ok ((shownTable held).insert Declaration.disabledKey
        (.array ((hiddenKeys held).map Toml.text)))) = _
    unfold exportTable
    split <;> rfl
  constructor
  · intro success
    have short : ∀ pair ∈ held.pairs, ¬ pair.2.TooLong := by
      intro pair member
      unfold toTable at success
      rw [read, ok_bind] at success
      obtain ⟨written, walked, -⟩ := bind_eq_ok_iff.mp success
      obtain ⟨result, -, done⟩ := step_of_mapM_eq_ok walked pair member
      exact exists_written_iff.mp ⟨result, done⟩
    exact ⟨short, Except.ok.inj (success.symm.trans (made short))⟩
  · rintro ⟨short, rfl⟩
    exact made short

/-- Among the numbers of seconds that are too large, that of the first key is reported. -/
theorem toTable_eq_error_iff {fault : ConfigError} : store.toTable = .error fault ↔
    ∃ key value, held.get? key = some value ∧ value.TooLong ∧
      (∀ other value, held.get? other = some value → other < key → ¬ value.TooLong) ∧
      fault = .invalidValue key .tooLongForToml := by
  have failed_iff : ∀ pair : String × Value, (do
      let form ← pair.2.toToml? pair.1
      return (pair.1, form)) = (.error fault : Except ConfigError (String × Option Toml)) ↔
        pair.2.TooLong ∧ fault = .invalidValue pair.1 .tooLongForToml := by
    intro pair
    rw [bind_eq_error_iff, Value.toToml?_eq_error_iff, or_iff_left (by simp [pure, Except.pure])]
  have stops : store.toTable = .error fault ↔ ∃ before pair after,
      held.pairs = before ++ pair :: after ∧ (∀ earlier ∈ before, ¬ earlier.2.TooLong) ∧
        pair.2.TooLong ∧ fault = .invalidValue pair.1 .tooLongForToml := by
    unfold toTable
    rw [read, ok_bind, bind_eq_error_iff, mapM_eq_error_iff, or_iff_left]
    · simp only [exists_written_iff, failed_iff]
    · rintro ⟨written, -, failed⟩
      simp only at failed
      split at failed <;> cases failed
  -- The walk is by ascending key, so the keys before the failing one are the smaller ones.
  have sorted := held.ascending
  rw [stops]
  constructor
  · rintro ⟨before, ⟨key, value⟩, after, split, fine, long, rfl⟩
    rw [split] at sorted
    refine ⟨key, value, ?_, long, ?_, rfl⟩
    · rw [← KeyMap.mem_pairs_iff, split]
      simp
    · intro other value found less
      have member := split ▸ KeyMap.mem_pairs_iff.mpr found
      exact fine (other, value) ((mem_before_iff sorted).mpr ⟨member, less⟩)
  · rintro ⟨key, value, found, long, fine, rfl⟩
    obtain ⟨before, after, split⟩ := List.append_of_mem (KeyMap.mem_pairs_iff.mpr found)
    rw [split] at sorted
    refine ⟨before, (key, value), after, split, ?_, long, rfl⟩
    intro earlier member
    obtain ⟨inside, less⟩ := (mem_before_iff sorted).mp member
    exact fine earlier.1 earlier.2 (KeyMap.mem_pairs_iff.mp (split ▸ inside)) less

theorem tomlText_eq_ok_iff {text : String} : store.tomlText = .ok text ↔
    (∀ pair ∈ held.pairs, ¬ pair.2.TooLong) ∧ text = Toml.document (exportTable held).pairs := by
  unfold tomlText
  rw [bind_eq_ok_iff]
  simp only [toTable_eq_ok_iff read]
  constructor
  · rintro ⟨table, ⟨short, rfl⟩, printed⟩
    exact ⟨short, (Except.ok.inj printed).symm⟩
  · rintro ⟨short, rfl⟩
    exact ⟨_, ⟨short, rfl⟩, rfl⟩

end Exported

theorem tomlText_eq_error_iff {store : Store} {fault : ConfigError} :
    store.tomlText = .error fault ↔ store.toTable = .error fault := by
  unfold tomlText
  rw [bind_eq_error_iff, or_iff_left (by simp [pure, Except.pure])]

theorem tomlText_congr {left right : Store} (same : left.entries = right.entries) :
    left.tomlText = right.tomlText := by
  unfold tomlText toTable
  rw [snapshot_congr same]

section Overlaid

variable (held : KeyMap Value)

theorem flat_exportTable : ∀ pair ∈ (exportTable held).pairs, pair.2.Flat := by
  rintro ⟨key, written⟩ member
  rw [KeyMap.mem_pairs_iff, get?_exportTable] at member
  split at member
  · cases member
    intro item inside
    obtain ⟨name, -, rfl⟩ := List.mem_map.mp inside
    exact ⟨name, rfl⟩
  · obtain ⟨value, -, known⟩ := Option.bind_eq_some_iff.mp member
    exact (Value.plain?_exported known).2

-- Without null values there is no reserved list, and then a setting of its name is in its place.
theorem disabledNames_exportTable {names : List String} :
    Declaration.disabledNames (exportTable held) = .ok names ↔
      (hiddenKeys held ≠ [] ∨ held.get? Declaration.disabledKey = none) ∧
        names = hiddenKeys held := by
  unfold Declaration.disabledNames
  rw [get?_exportTable]
  by_cases none_ : hiddenKeys held = []
  · cases found : held.get? Declaration.disabledKey with
    | none => simp [none_, eq_comm]
    | some value =>
      have visible : value ≠ .null := by
        rintro rfl
        have listed := mem_hiddenKeys_iff.mpr found
        simp [none_] at listed
      cases value <;> simp [none_, Value.exported?] at visible ⊢
  · rw [if_pos ⟨rfl, none_⟩]
    simp only [Declaration.mapM_disabledName, Except.ok.injEq, ne_eq, none_, not_false_eq_true,
      true_or, true_and]
    exact eq_comm

theorem ofTable_exportTable {declaration : Declaration} :
    Declaration.ofTable (exportTable held) = .ok declaration ↔
      (hiddenKeys held ≠ [] ∨ held.get? Declaration.disabledKey = none) ∧
        declaration = Declaration.overlaid (exportTable held) (hiddenKeys held) := by
  rw [Declaration.ofTable_eq_ok_iff]
  simp only [disabledNames_exportTable]
  constructor
  · rintro ⟨names, ⟨listed, rfl⟩, -, rfl⟩
    exact ⟨listed, rfl⟩
  · rintro ⟨listed, rfl⟩
    refine ⟨_, ⟨listed, rfl⟩, ?_, rfl⟩
    rintro ⟨key, written⟩ member
    rw [KeyMap.mem_pairs_iff, KeyMap.get?_erase] at member
    by_cases reserved : key = Declaration.disabledKey
    · simp [reserved] at member
    · rw [if_neg reserved, get?_exportTable, if_neg fun list => reserved list.1] at member
      obtain ⟨value, found, known⟩ := Option.bind_eq_some_iff.mp member
      refine ⟨?_, by simp [(Value.plain?_exported known).1]⟩
      intro hidden
      cases found.symm.trans (mem_hiddenKeys_iff.mp hidden)
      cases known

/-- What the written table assigns. A setting in the place of the reserved list is lost. -/
theorem value?_exported (key : String) :
    (Declaration.overlaid (exportTable held) (hiddenKeys held)).value? key =
      if key = Declaration.disabledKey ∧ held.get? key ≠ some .null then none
      else (held.get? key).map Value.reread := by
  rw [Declaration.value?_overlaid, get?_exportTable]
  by_cases hidden : key ∈ hiddenKeys held
  · have null := mem_hiddenKeys_iff.mp hidden
    simp [hidden, null, Value.reread]
  · have visible : held.get? key ≠ some .null := fun null => hidden (mem_hiddenKeys_iff.mpr null)
    rw [if_neg hidden]
    by_cases reserved : key = Declaration.disabledKey
    · rw [if_pos reserved, if_pos ⟨reserved, visible⟩]
    · rw [if_neg reserved, if_neg fun list => reserved list.1, if_neg fun lost => reserved lost.1]
      cases found : held.get? key with
      | none => rfl
      | some value =>
        cases written : value.exported? with
        | none =>
          rw [Value.exported?_eq_none_iff.mp written] at found
          exact absurd found visible
        | some form => simp [written, (Value.plain?_exported written).1]

theorem ofToml_printed {source : String}
    (holds : Toml.Holds source (Toml.document (exportTable held).pairs)) :
    Declaration.ofToml source = Declaration.ofTable (exportTable held) := by
  unfold Declaration.ofToml
  rw [Toml.parse?_document (flat_exportTable held) holds]

end Overlaid

end Store

end LaunchConfig
