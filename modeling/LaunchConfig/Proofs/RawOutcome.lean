import LaunchConfig.Proofs.RawText

/-!
What the text of a variable says to a key. For each kind of key the texts are given by a grammar, and
a text outside the grammar is refused with an error that names the key.
-/
namespace LaunchConfig

namespace KeySpec

/-- Digits, after a plus sign or not, with the unit of seconds behind them or not. -/
def WritesSeconds (cs : List Char) (n : Nat) : Prop :=
  ∃ sign digits unit, cs = sign ++ digits ++ unit ∧ (sign = [] ∨ sign = ['+']) ∧
    Numeral.Writes digits n ∧ (unit = [] ∨ unit = ['s'])

/-- The value that a key has from a text without blanks around it. Zero is the only count that may
follow a minus sign. -/
inductive Reads (spec : KeySpec) (text : String) : Value → Prop
  | off (nullable : spec.nullable = true) (word : Text.lowercase text ∈ ["none", "null"]) :
      Reads spec text .null
  | text (on : ¬ spec.SwitchesOff text) (kind : spec.kind = .text) : Reads spec text (.text text)
  | count {held : Int64} (on : ¬ spec.SwitchesOff text) (kind : spec.kind = .count)
      (written : Numeral.WritesInteger text.toList held.toInt) (natural : 0 ≤ held.toInt) :
      Reads spec text (.integer held)
  | yes (on : ¬ spec.SwitchesOff text) (kind : spec.kind = .boolean)
      (word : Text.lowercase text ∈ ["true", "1", "yes", "on"]) : Reads spec text (.boolean true)
  | no (on : ¬ spec.SwitchesOff text) (kind : spec.kind = .boolean)
      (word : Text.lowercase text ∈ ["false", "0", "no", "off"]) : Reads spec text (.boolean false)
  | duration {held : UInt64} (on : ¬ spec.SwitchesOff text) (kind : spec.kind = .duration)
      (written : WritesSeconds text.toList held.toNat) : Reads spec text (.seconds held)

variable {spec : KeySpec} {text raw : String} {value : Value} {fault : ConfigError}

theorem withoutUnit_eq_self {cs : List Char} {n : Nat} (written : Numeral.Writes cs n)
    (front : List Char) : withoutUnit (front ++ cs) = front ++ cs := by
  apply if_neg
  intro unit
  rw [List.getLast?_append_of_ne_nil _ written.nonempty] at unit
  exact absurd (written.digits 's' (List.mem_of_getLast? unit)) (by decide)

theorem unsigned_withoutUnit_iff {limit : Nat} {cs : List Char} {n : Nat} :
    Numeral.unsigned limit (withoutUnit cs) = .ok n ↔ WritesSeconds cs n ∧ n ≤ limit := by
  rw [Numeral.unsigned_eq_ok_iff]
  constructor
  · rintro ⟨sign, digits, core, signed, written, within⟩
    refine ⟨?_, within⟩
    unfold withoutUnit at core
    split at core
    next unit =>
      refine ⟨sign, digits, ['s'], ?_, signed, written, Or.inr rfl⟩
      rw [← core]
      exact (List.dropLast_append_getLast? 's' unit).symm
    next =>
      exact ⟨sign, digits, [], by rw [core, List.append_nil], signed, written, Or.inl rfl⟩
  · rintro ⟨⟨sign, digits, unit, rfl, signed, written, rfl | rfl⟩, within⟩
    · exact ⟨sign, digits, by rw [List.append_nil, withoutUnit_eq_self written], signed, written, within⟩
    · exact ⟨sign, digits, by simp [withoutUnit], signed, written, within⟩

theorem Reads.stores (reads : spec.Reads text value) : spec.Stores value := by
  cases reads with
  | off nullable word => exact nullable
  | text on kind => exact kind
  | count on kind written natural => exact ⟨kind, natural⟩
  | yes on kind word => exact kind
  | no on kind word => exact kind
  | duration on kind written => exact kind

/-- What comes of a text that switches nothing off, by the kind of the key. A count may still turn
out to be negative. -/
inductive Outcome (spec : KeySpec) (text : String) : Except ConfigError Value → Prop
  | text (kind : spec.kind = .text) : Outcome spec text (.ok (.text text))
  | count {held : Int64} (kind : spec.kind = .count)
      (written : Numeral.WritesInteger text.toList held.toInt) :
      Outcome spec text (.ok (.integer held))
  | noCount {fault : NumeralFault} (kind : spec.kind = .count) :
      Outcome spec text (.error (.invalidValue spec.key (.notInteger text fault)))
  | yes (kind : spec.kind = .boolean) (word : Text.lowercase text ∈ trueWords) :
      Outcome spec text (.ok (.boolean true))
  | no (kind : spec.kind = .boolean) (word : Text.lowercase text ∈ falseWords) :
      Outcome spec text (.ok (.boolean false))
  | noWord (kind : spec.kind = .boolean) :
      Outcome spec text (.error (.invalidValue spec.key (.notBoolean text)))
  | duration {held : UInt64} (kind : spec.kind = .duration)
      (written : WritesSeconds text.toList held.toNat) : Outcome spec text (.ok (.seconds held))
  | noDuration {fault : NumeralFault} (kind : spec.kind = .duration) :
      Outcome spec text (.error (.invalidValue spec.key (.notSeconds text fault)))

theorem readText_outcome (spec : KeySpec) (text : String) :
    spec.Outcome text (spec.readText text) := by
  unfold readText
  split
  next kind => exact .text kind
  next kind =>
    split
    next held accepted => exact .count kind (Numeral.signed_eq_ok_iff.mp accepted)
    next => exact .noCount kind
  next kind =>
    split
    next word => exact .yes kind word
    next =>
      split
      next word => exact .no kind word
      next => exact .noWord kind
  next kind =>
    split
    next held accepted =>
      obtain ⟨written, within⟩ := unsigned_withoutUnit_iff.mp accepted
      have same : (UInt64.ofNat held).toNat = held :=
        UInt64.toNat_ofNat_of_lt' (Numeral.le_maxUnsigned_iff.mp within)
      exact .duration kind (same.symm ▸ written)
    next => exact .noDuration kind

theorem reads_of_readText (on : ¬ spec.SwitchesOff text) (read : spec.readText text = .ok value)
    (stores : spec.Stores value) : spec.Reads text value := by
  have outcome := spec.readText_outcome text
  rw [read] at outcome
  cases outcome with
  | text kind => exact .text on kind
  | count kind written => exact .count on kind written stores.2
  | yes kind word => exact .yes on kind word
  | no kind word => exact .no on kind word
  | duration kind written => exact .duration on kind written

-- No word stands for both truth values.
theorem readText_of_reads (on : ¬ spec.SwitchesOff text) (reads : spec.Reads text value) :
    spec.readText text = .ok value := by
  cases reads with
  | off nullable word => exact absurd ⟨nullable, word⟩ on
  | text _ kind => rw [readText, kind]
  | count _ kind written natural =>
    simp only [readText, kind, Numeral.signed_eq_ok_iff.mpr written]
  | yes _ kind word =>
    simp only [readText, kind]
    exact if_pos word
  | no _ kind word =>
    have other : ∀ word ∈ falseWords, word ∉ trueWords := by decide
    simp only [readText, kind]
    exact (if_neg (other _ word)).trans (if_pos word)
  | duration _ kind written =>
    have accepted := unsigned_withoutUnit_iff.mpr ⟨written, Numeral.u64_le_maxUnsigned _⟩
    simp only [readText, kind, accepted, UInt64.ofNat_toNat]

theorem parseRaw_eq_ok_iff :
    spec.parseRaw raw = .ok value ↔ spec.Reads (Text.trim raw) value := by
  by_cases off : spec.SwitchesOff (Text.trim raw)
  · rw [parseRaw_of_switchesOff off]
    constructor
    · intro same
      cases same
      exact .off off.1 off.2
    · intro reads
      cases reads with
      | off => rfl
      | _ => contradiction
  · constructor
    · intro read
      have stores := stores_of_parseRaw read
      obtain ⟨held, accepted, kept⟩ := bind_eq_ok_iff.mp ((if_neg off).symm.trans read)
      cases (andThen_eq_ok_iff.mp kept).2
      exact reads_of_readText off accepted stores
    · intro reads
      exact parseRaw_of_readText off (readText_of_reads off reads) reads.stores

theorem readText_eq_error (failed : spec.readText text = .error fault) :
    ∃ reason, fault = .invalidValue spec.key reason := by
  have outcome := spec.readText_outcome text
  rw [failed] at outcome
  cases outcome with
  | noCount kind => exact ⟨_, rfl⟩
  | noWord kind => exact ⟨_, rfl⟩
  | noDuration kind => exact ⟨_, rfl⟩

/-- What is read from a text is of the kind of the key, so all that its test can find wrong is the
sign of a count. -/
theorem check_of_readText (read : spec.readText text = .ok value)
    (refused : spec.check value = .error fault) : ∃ reason, fault = .invalidValue spec.key reason := by
  have outcome := spec.readText_outcome text
  rw [read] at outcome
  cases outcome with
  | text kind => simp [check, kind] at refused
  | count kind written =>
    simp only [check, kind] at refused
    split at refused
    · exact ⟨_, (Except.error.inj refused).symm⟩
    · cases refused
  | yes kind word => simp [check, kind] at refused
  | no kind word => simp [check, kind] at refused
  | duration kind written => simp [check, kind] at refused

theorem parseRaw_eq_error (failed : spec.parseRaw raw = .error fault) :
    ∃ reason, fault = .invalidValue spec.key reason := by
  by_cases off : spec.SwitchesOff (Text.trim raw)
  · cases (parseRaw_of_switchesOff off).symm.trans failed
  · rcases bind_eq_error_iff.mp ((if_neg off).symm.trans failed) with failed | ⟨held, read, failed⟩
    · exact readText_eq_error failed
    · rcases bind_eq_error_iff.mp failed with refused | ⟨_, _, impossible⟩
      · exact check_of_readText read refused
      · cases impossible

/-- The text of a variable is trimmed first. Then it is read if it is in the grammar of its key, and
only then; otherwise the error names the key. What is read may be stored under the key as it is. -/
theorem parseRaw_grammar (spec : KeySpec) (raw : String) :
    Text.Trims raw.toList (Text.trim raw).toList ∧
    (∀ value, spec.parseRaw raw = .ok value ↔ spec.Reads (Text.trim raw) value) ∧
    ((∃ reason, spec.parseRaw raw = .error (.invalidValue spec.key reason)) ↔
      ∀ value, ¬ spec.Reads (Text.trim raw) value) ∧
    (∀ fault, spec.parseRaw raw = .error fault → ∃ reason, fault = .invalidValue spec.key reason) ∧
    ∀ value, spec.parseRaw raw = .ok value →
      spec.check value = .ok () ∧ spec.normalize value = value := by
  refine ⟨?_, fun value => parseRaw_eq_ok_iff, ⟨?_, ?_⟩, fun fault => parseRaw_eq_error, ?_⟩
  · rw [Text.trim, String.toList_ofList]
    exact Text.trims_trimChars raw.toList
  · rintro ⟨reason, failed⟩ value reads
    cases failed.symm.trans (parseRaw_eq_ok_iff.mpr reads)
  · intro unread
    rcases ok_or_error (spec.parseRaw raw) with ⟨value, read⟩ | ⟨fault, failed⟩
    · exact absurd (parseRaw_eq_ok_iff.mp read) (unread value)
    · obtain ⟨reason, rfl⟩ := parseRaw_eq_error failed
      exact ⟨reason, failed⟩
  · intro value read
    have stores := stores_of_parseRaw read
    exact ⟨(spec.check_eq_ok_iff value).mpr stores, normalize_of_stores stores⟩

-- Signs and units differ between the kinds: a count takes either sign, a duration no minus sign.
example : (Schema.lookup? "WORKER_NUM").map (parseRaw · " -0 ") = some (.ok (.integer 0)) := rfl

example : (Schema.lookup? "LB_PERIOD").map (parseRaw · "+90s") = some (.ok (.seconds 90)) := rfl

example : (Schema.lookup? "LB_PERIOD").map (parseRaw · "-0") =
    some (.error (.invalidValue "LB_PERIOD" (.notSeconds "-0" .invalidDigit))) := rfl

end KeySpec

end LaunchConfig
