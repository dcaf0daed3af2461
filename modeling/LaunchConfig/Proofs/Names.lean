import LaunchConfig.Validation
import Mathlib.Data.List.Basic

/-!
The names that regions and machine images may have, said without a reader: a region's name is its
parts with hyphens between them, an image's name is a fixed start and hexadecimal digits.
-/
namespace LaunchConfig

namespace Text

/-- Some character of the text is visible. -/
def NotBlank (text : String) : Prop :=
  ∃ c ∈ text.toList, isBlank c = false

theorem isBlankText_eq_false_iff {text : String} : isBlankText text = false ↔ NotBlank text := by
  simp [isBlankText, NotBlank]

theorem parts_eq_splitOn (separator : Char) (cs : List Char) :
    parts separator cs = cs.splitOn separator := by
  induction cs with
  | nil => rfl
  | cons c rest ih =>
    rw [List.splitOn_cons_eq_if_modifyHead, parts, ih]
    by_cases same : c = separator
    · simp [same]
    · simp only [same, if_false, beq_iff_eq]
      cases split : rest.splitOn separator with
      | nil => exact absurd split (List.splitOn_ne_nil separator rest)
      | cons part others => rfl

theorem intercalate_parts (separator : Char) (cs : List Char) :
    [separator].intercalate (parts separator cs) = cs := by
  rw [parts_eq_splitOn, List.intercalate_splitOn]

theorem parts_intercalate {separator : Char} {listed : List (List Char)} (some_ : listed ≠ [])
    (free : ∀ part ∈ listed, separator ∉ part) :
    parts separator ([separator].intercalate listed) = listed := by
  rw [parts_eq_splitOn, List.splitOn_intercalate separator free some_]

theorem dropStart?_eq_some_iff {start text rest : String} :
    dropStart? start text = some rest ↔ text = start ++ rest := by
  simp only [dropStart?, Option.map_eq_some_iff, List.isPrefixOf?_eq_some_iff_append_eq]
  constructor
  · rintro ⟨cs, split, rfl⟩
    apply String.toList_injective
    rw [String.toList_append, String.toList_ofList, split]
  · rintro rfl
    exact ⟨rest.toList, by rw [String.toList_append], String.ofList_toList⟩

theorem utf8Size_eq_one_iff {c : Char} : c.utf8Size = 1 ↔ c.toNat < 128 := by
  rw [Char.utf8Size_eq_one_iff, UInt32.le_iff_toNat_le]
  exact Nat.lt_succ_iff.symm

/-- Each character of ASCII is one byte. -/
theorem utf8ByteSize_ofList_of_ascii {cs : List Char} (ascii : ∀ c ∈ cs, c.toNat < 128) :
    (String.ofList cs).utf8ByteSize = cs.length := by
  induction cs with
  | nil => rfl
  | cons c rest ih =>
    obtain ⟨small, ascii⟩ := List.forall_mem_cons.mp ascii
    rw [String.ofList_cons, String.utf8ByteSize_append, String.utf8ByteSize_singleton,
      utf8Size_eq_one_iff.mpr small, ih ascii, List.length_cons, Nat.add_comm]

end Text

namespace Validation

/-- Small letters of ASCII, at least one. -/
def IsWord (part : List Char) : Prop :=
  part ≠ [] ∧ ∀ c ∈ part, 'a' ≤ c ∧ c ≤ 'z'

/-- Digits of ASCII, at least one. -/
def IsNumber (part : List Char) : Prop :=
  part ≠ [] ∧ ∀ c ∈ part, '0' ≤ c ∧ c ≤ '9'

/-- A region is named by a country of two letters, an area and a number. Between the country and the
area a government's region has one more part. -/
def IsRegionName (name : String) : Prop :=
  ∃ country mark area number : List Char,
    name.toList = country ++ '-' :: (mark ++ area ++ '-' :: number) ∧
    (mark = [] ∨ mark = ['g', 'o', 'v', '-']) ∧
    country.length = 2 ∧ IsWord country ∧ IsWord area ∧ IsNumber number

/-- An image is named by hexadecimal digits after a fixed start. -/
def IsImageName (name : String) : Prop :=
  ∃ digits : String, name = "ami-" ++ digits ∧ digits ≠ "" ∧
    ∀ c ∈ digits.toList, ('0' ≤ c ∧ c ≤ '9') ∨ ('a' ≤ c ∧ c ≤ 'f') ∨ ('A' ≤ c ∧ c ≤ 'F')

theorem isWord_iff {part : List Char} :
    IsWord part ↔ part.isEmpty = false ∧ part.all Char.isLower = true := by
  have small : ∀ c : Char, c.isLower = (decide (c.val ≥ 'a'.val) && decide (c.val ≤ 'z'.val)) :=
    fun _ => rfl
  simp [IsWord, small, Char.le_def]

theorem isNumber_iff {part : List Char} :
    IsNumber part ↔ part.isEmpty = false ∧ part.all Char.isDigit = true := by
  simp [IsNumber, Char.isDigit, Char.le_def]

theorem IsWord.hyphen_notMem {part : List Char} (word : IsWord part) : '-' ∉ part := by
  intro inside
  exact absurd (word.2 '-' inside) (by decide)

theorem IsWord.utf8ByteSize_eq_length {part : List Char} (word : IsWord part) :
    (String.ofList part).utf8ByteSize = part.length := by
  refine Text.utf8ByteSize_ofList_of_ascii fun c member => ?_
  have low : c.toNat ≤ 122 := (word.2 c member).2
  omega

theorem IsNumber.hyphen_notMem {part : List Char} (number : IsNumber part) : '-' ∉ part := by
  intro inside
  exact absurd (number.2 '-' inside) (by decide)

-- The country is measured in bytes, but its letters are those of ASCII.
theorem isRegionOf_iff {country area number : List Char} :
    isRegionOf country area number = true ↔
      country.length = 2 ∧ IsWord country ∧ IsWord area ∧ IsNumber number := by
  simp only [isRegionOf, isWord_iff, isNumber_iff, Bool.and_eq_true, decide_eq_true_eq,
    Bool.not_eq_true']
  constructor
  · rintro ⟨⟨⟨⟨⟨two, letters⟩, area⟩, letters'⟩, number⟩, digits⟩
    have some_ : country.isEmpty = false := by
      cases country with
      | nil => cases two
      | cons c rest => rfl
    have word := isWord_iff.mpr ⟨some_, letters⟩
    exact ⟨word.utf8ByteSize_eq_length ▸ two, ⟨some_, letters⟩, ⟨area, letters'⟩, number, digits⟩
  · rintro ⟨two, ⟨some_, letters⟩, ⟨area, letters'⟩, number, digits⟩
    have word := isWord_iff.mpr ⟨some_, letters⟩
    exact ⟨⟨⟨⟨⟨word.utf8ByteSize_eq_length.trans two, letters⟩, area⟩, letters'⟩, number⟩, digits⟩

-- With `gov` as an area of its own there are three parts, with an area behind it four.
theorem isRegion_iff {name : String} : isRegion name = true ↔ IsRegionName name := by
  constructor
  · intro accepted
    have whole := Text.intercalate_parts '-' name.toList
    unfold isRegion at accepted
    split at accepted
    next country area number split =>
      rw [split] at whole
      exact ⟨country, [], area, number, by simp [← whole], Or.inl rfl, isRegionOf_iff.mp accepted⟩
    next country mark area number split =>
      rw [split] at whole
      obtain ⟨marked, parts⟩ := Bool.and_eq_true_iff.mp accepted
      obtain rfl := of_decide_eq_true marked
      exact ⟨country, ['g', 'o', 'v', '-'], area, number, by simp [← whole], Or.inr rfl,
        isRegionOf_iff.mp parts⟩
    next => cases accepted
  · rintro ⟨country, mark, area, number, whole, marked, two, word, word', digits⟩
    have parts := isRegionOf_iff.mpr ⟨two, word, word', digits⟩
    have free : ∀ part ∈ [country, ['g', 'o', 'v'], area, number], '-' ∉ part := by
      simp [word.hyphen_notMem, word'.hyphen_notMem, digits.hyphen_notMem]
    rcases marked with rfl | rfl
    · have split : Text.parts '-' name.toList = [country, area, number] := by
        have kept : [country, area, number] ⊆ [country, ['g', 'o', 'v'], area, number] := by simp
        rw [← Text.parts_intercalate (by simp) fun part member => free part (kept member), whole]
        simp
      simp [isRegion, split, parts]
    · have split : Text.parts '-' name.toList = [country, ['g', 'o', 'v'], area, number] := by
        rw [← Text.parts_intercalate (by simp) free, whole]
        simp
      simp [isRegion, split, parts]

theorem isSome_hexValue?_iff {c : Char} : (Text.hexValue? c).isSome = true ↔
    ('0' ≤ c ∧ c ≤ '9') ∨ ('a' ≤ c ∧ c ≤ 'f') ∨ ('A' ≤ c ∧ c ≤ 'F') := by
  unfold Text.hexValue?
  split <;> rename_i digit
  · simp [digit]
  · split <;> rename_i small
    · simp [small]
    · split <;> rename_i capital <;> simp [digit, small, capital]

theorem isImage_iff {name : String} : isImage name = true ↔ IsImageName name := by
  have accepts : ∀ digits : String,
      (!digits.isEmpty && digits.toList.all fun c => (Text.hexValue? c).isSome) = true ↔
        digits ≠ "" ∧ ∀ c ∈ digits.toList,
          ('0' ≤ c ∧ c ≤ '9') ∨ ('a' ≤ c ∧ c ≤ 'f') ∨ ('A' ≤ c ∧ c ≤ 'F') := by
    intro digits
    simp [isSome_hexValue?_iff]
  unfold isImage
  constructor
  · intro accepted
    split at accepted
    next digits rest =>
      exact ⟨digits, Text.dropStart?_eq_some_iff.mp rest, (accepts digits).mp accepted⟩
    next => cases accepted
  · rintro ⟨digits, whole, hexadecimal⟩
    rw [Text.dropStart?_eq_some_iff.mpr whole]
    exact (accepts digits).mpr hexadecimal

end Validation

end LaunchConfig
