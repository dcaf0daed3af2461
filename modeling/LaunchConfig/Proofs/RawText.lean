import LaunchConfig.CommandLine.Execution
import LaunchConfig.Declaration.Overrides
import LaunchConfig.Proofs.Names
import LaunchConfig.Proofs.Numeral
import LaunchConfig.Proofs.Schema
import LaunchConfig.Proofs.Text

/-!
Values as texts of variables. What a key reads from the text of a variable always fits the key, and
the text that is shown for a value that the key stores is read as that value, except for texts that
begin or end in blanks and, where a key may be switched off, the words for that.
-/
namespace LaunchConfig

namespace Text

theorem range_of_isDigit {c : Char} (digit : c.isDigit = true) : 48 ≤ c.toNat ∧ c.toNat ≤ 57 := by
  simpa [Char.isDigit, UInt32.le_iff_toNat_le] using digit

/-- A character of a number as it is shown. -/
def InNumber (c : Char) : Prop :=
  c = '-' ∨ c = 's' ∨ c.isDigit = true

theorem InNumber.not_blank {c : Char} (inNumber : InNumber c) : isBlank c = false := by
  rcases inNumber with rfl | rfl | digit
  · rfl
  · rfl
  · have range := range_of_isDigit digit
    unfold isBlank
    simp
    omega

theorem InNumber.toLower_ne {c : Char} (inNumber : InNumber c) : c.toLower ≠ 'n' := by
  rcases inNumber with rfl | rfl | digit
  · decide
  · decide
  · have range := range_of_isDigit digit
    have small : ¬ (c.val ≥ 'A'.val ∧ c.val ≤ 'Z'.val) := by
      simp [UInt32.le_iff_toNat_le]
      omega
    have same : c.toLower = c := dif_neg small
    rw [same]
    rintro rfl
    contradiction

theorem inNumber_decimal {n : Int} : ∀ c ∈ Numeral.decimal n, InNumber c := by
  intro c member
  unfold Numeral.decimal at member
  split at member
  · rcases List.mem_cons.mp member with rfl | digit
    · exact Or.inl rfl
    · exact Or.inr (Or.inr (Numeral.isDigit_of_toDigits c digit))
  · exact Or.inr (Or.inr (Numeral.isDigit_of_toDigits c member))

end Text

namespace KeySpec

variable {spec : KeySpec} {raw : String} {value : Value}

/-- The trimmed text is a word that switches the key off. -/
def SwitchesOff (spec : KeySpec) (text : String) : Prop :=
  spec.nullable = true ∧ Text.lowercase text ∈ nullWords

theorem SwitchesOff.exists_char {text : String} (off : spec.SwitchesOff text) :
    ∃ c ∈ text.toList, c.toLower = 'n' := by
  have starts : ∀ word ∈ nullWords, 'n' ∈ word.toList := by decide
  have listed := starts _ off.2
  rw [Text.lowercase, String.toList_ofList] at listed
  exact List.mem_map.mp listed

/-- Whatever is read from a text fits the key. -/
theorem stores_of_parseRaw (read : spec.parseRaw raw = .ok value) : spec.Stores value := by
  unfold parseRaw at read
  simp only at read
  split at read
  · rename_i off
    cases read
    exact off.1
  · obtain ⟨held, -, read⟩ := bind_eq_ok_iff.mp read
    obtain ⟨fits, same⟩ := andThen_eq_ok_iff.mp read
    cases same
    exact (spec.check_eq_ok_iff _).mp fits

theorem parseRaw_of_switchesOff (off : spec.SwitchesOff (Text.trim raw)) :
    spec.parseRaw raw = .ok .null :=
  if_pos off

theorem parseRaw_of_readText (on : ¬ spec.SwitchesOff (Text.trim raw))
    (read : spec.readText (Text.trim raw) = .ok value) (stores : spec.Stores value) :
    spec.parseRaw raw = .ok value := by
  have fits := (spec.check_eq_ok_iff value).mpr stores
  apply (if_neg on).trans
  rw [read, ok_bind, fits, ok_bind]
  rfl

/-- The text of a number is not touched before it is read. -/
theorem parseRaw_of_inNumber {cs : List Char} (inNumber : ∀ c ∈ cs, Text.InNumber c)
    (read : spec.readText (String.ofList cs) = .ok value) (stores : spec.Stores value) :
    spec.parseRaw (String.ofList cs) = .ok value := by
  have trimmed : Text.trim (String.ofList cs) = String.ofList cs := by
    rw [Text.trim, String.toList_ofList,
      Text.trimChars_eq_self fun c member => (inNumber c member).not_blank]
  apply parseRaw_of_readText
  · intro off
    obtain ⟨c, member, letter⟩ := off.exists_char
    rw [trimmed, String.toList_ofList] at member
    exact (inNumber c member).toLower_ne letter
  · rwa [trimmed]
  · exact stores

theorem parseRaw_text (kind : spec.kind = .text) (held : String) :
    spec.parseRaw held = .ok (.text held) ↔ Text.trim held = held ∧ ¬ spec.SwitchesOff held := by
  constructor
  · intro read
    have on : ¬ spec.SwitchesOff (Text.trim held) := by
      intro off
      cases read.symm.trans (parseRaw_of_switchesOff off)
    have whole : spec.parseRaw held = .ok (.text (Text.trim held)) :=
      parseRaw_of_readText on (by rw [readText, kind]) kind
    have trimmed : Text.trim held = held := by
      injection whole.symm.trans read with same
      injection same
    exact ⟨trimmed, trimmed ▸ on⟩
  · rintro ⟨trimmed, on⟩
    apply parseRaw_of_readText
    · rwa [trimmed]
    · rw [readText, kind, trimmed]
    · exact kind

theorem parseRaw_boolean (kind : spec.kind = .boolean) (held : Bool) :
    spec.parseRaw (CommandLine.valueText false (.boolean held)) = .ok (.boolean held) := by
  cases held with
  | true =>
    refine parseRaw_of_readText (fun off => absurd off.2 (by decide)) ?_ kind
    rw [readText, kind]
    rfl
  | false =>
    refine parseRaw_of_readText (fun off => absurd off.2 (by decide)) ?_ kind
    rw [readText, kind]
    rfl

theorem parseRaw_integer {held : Int64} (stores : spec.Stores (.integer held)) :
    spec.parseRaw (CommandLine.valueText false (.integer held)) = .ok (.integer held) := by
  apply parseRaw_of_inNumber Text.inNumber_decimal _ stores
  rw [readText, stores.1]
  simp only [String.toList_ofList, Numeral.signed_decimal]

theorem parseRaw_seconds (kind : spec.kind = .duration) (held : UInt64) :
    spec.parseRaw (CommandLine.valueText false (.seconds held)) = .ok (.seconds held) := by
  have digits : withoutUnit (Numeral.decimal held.toNat ++ ['s']) = Nat.toDigits 10 held.toNat := by
    simp [withoutUnit, Numeral.decimal]
  have within : held.toNat ≤ Numeral.maxUnsigned := by
    have below := held.toNat_lt
    unfold Numeral.maxUnsigned
    omega
  have stores : spec.Stores (.seconds held) := kind
  apply parseRaw_of_inNumber _ _ stores
  · intro c member
    rcases List.mem_append.mp member with digit | unit
    · exact Text.inNumber_decimal c digit
    · exact Or.inr (Or.inl (List.mem_singleton.mp unit))
  · rw [readText, kind]
    simp only [String.toList_ofList, digits, Numeral.unsigned_toDigits within, UInt64.ofNat_toNat]

/-- The shown text of a value is read as the value, but for some texts. -/
theorem parseRaw_valueText (stores : spec.Stores value) :
    spec.parseRaw (CommandLine.valueText false value) = .ok value ↔
      ∀ held, value = .text held → Text.trim held = held ∧ ¬ spec.SwitchesOff held := by
  cases value with
  | text held =>
    have shown : CommandLine.valueText false (.text held) = held := rfl
    rw [shown, parseRaw_text stores]
    simp
  | null =>
    have off : spec.SwitchesOff (Text.trim "null") := ⟨stores, by decide⟩
    exact iff_of_true (parseRaw_of_switchesOff off) (by simp)
  | boolean held => exact iff_of_true (parseRaw_boolean stores held) (by simp)
  | integer held => exact iff_of_true (parseRaw_integer stores) (by simp)
  | seconds held => exact iff_of_true (parseRaw_seconds stores held) (by simp)

end KeySpec

namespace Declaration

variable {start : String}

theorem overridden?_eq_some_iff {name : String} {spec : KeySpec} :
    overridden? start name = some spec ↔
      ∃ key, name = start ++ key ∧ Schema.lookup? key = some spec := by
  simp only [overridden?, Option.bind_eq_some_iff, Text.dropStart?_eq_some_iff]

theorem ofOverrides_override {key raw : String} {spec : KeySpec} {rest : List (String × String)}
    (listed : Schema.lookup? key = some spec) :
    ofOverrides start ((start ++ key, raw) :: rest) = spec.parseRaw raw >>= fun value =>
      ofOverrides start rest >>= fun held => .ok ⟨(key, value) :: held.assignments⟩ := by
  have known : overridden? start (start ++ key) = some spec :=
    overridden?_eq_some_iff.mpr ⟨key, rfl, listed⟩
  have named := (Schema.lookup?_eq_some_iff.mp listed).2
  have chosen : overriding start ((start ++ key, raw) :: rest) =
      (spec, raw) :: overriding start rest := by
    simp [overriding, known]
  rw [ofOverrides, chosen, mapM_cons_eq, overrideAssignment, named, ofOverrides]
  cases spec.parseRaw raw with
  | error fault => rfl
  | ok value =>
    cases (overriding start rest).mapM overrideAssignment <;> rfl

/-- Overrides assign keys of the schema only, each a value that the key reads from a variable. -/
theorem mem_ofOverrides {environment : List (String × String)} {declaration : Declaration}
    (read : ofOverrides start environment = .ok declaration) {pair : String × Value}
    (assigned : pair ∈ declaration.assignments) :
    ∃ spec raw, Schema.lookup? pair.1 = some spec ∧ (start ++ pair.1, raw) ∈ environment ∧
      spec.parseRaw raw = .ok pair.2 := by
  obtain ⟨assignments, walked, same⟩ := bind_eq_ok_iff.mp read
  cases same
  obtain ⟨⟨spec, raw⟩, chosen, made⟩ := item_of_mapM_eq_ok walked pair assigned
  obtain ⟨value, parsed, same⟩ := bind_eq_ok_iff.mp made
  cases same
  obtain ⟨⟨name, raw'⟩, held, found⟩ := List.mem_filterMap.mp chosen
  obtain ⟨spec', known, same⟩ := Option.map_eq_some_iff.mp found
  cases same
  obtain ⟨key, rfl, listed⟩ := overridden?_eq_some_iff.mp known
  obtain ⟨inTable, rfl⟩ := Schema.lookup?_eq_some_iff.mp listed
  exact ⟨spec, raw, listed, held, parsed⟩

theorem ofOverrides_single {spec : KeySpec} {raw : String} {value : Value}
    (inTable : spec ∈ Schema.table) (parsed : spec.parseRaw raw = .ok value) :
    ofOverrides start [(start ++ spec.key, raw)] = .ok ⟨[(spec.key, value)]⟩ := by
  rw [ofOverrides_override (Schema.lookup?_eq_some_iff.mpr ⟨inTable, rfl⟩), parsed]
  rfl

end Declaration

end LaunchConfig
