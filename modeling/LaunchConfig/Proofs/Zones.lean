import LaunchConfig.Proofs.Validation

/-!
The zones of a region. A zone is named by its region and a letter, but all that is asked of a
placement is one more byte after the region. The name of a region ends with a digit, so a digit in
the place of the letter gives the name of another region.
-/
namespace LaunchConfig

namespace Validation

def IsDecimalDigit (c : Char) : Prop :=
  '0' ≤ c ∧ c ≤ '9'

/-- A letter of ASCII, small or capital. -/
def IsLetter (c : Char) : Prop :=
  ('a' ≤ c ∧ c ≤ 'z') ∨ ('A' ≤ c ∧ c ≤ 'Z')

instance (c : Char) : Decidable (IsLetter c) :=
  inferInstanceAs (Decidable (('a' ≤ c ∧ c ≤ 'z') ∨ ('A' ≤ c ∧ c ≤ 'Z')))

theorem IsLetter.not_decimalDigit {c : Char} (letter : IsLetter c) : ¬ IsDecimalDigit c := by
  intro digit
  rcases letter with small | capital
  · exact absurd (Char.le_trans small.1 digit.2) (by decide)
  · exact absurd (Char.le_trans capital.1 digit.2) (by decide)

theorem IsRegionName.exists_last {name : String} (named : IsRegionName name) :
    ∃ start digit, name.toList = start ++ [digit] ∧ IsDecimalDigit digit := by
  obtain ⟨country, mark, area, number, whole, -, -, -, -, some_, digits⟩ := named
  obtain ⟨front, digit, rfl⟩ := (List.eq_nil_or_concat' number).resolve_left some_
  refine ⟨country ++ '-' :: (mark ++ area ++ '-' :: front), digit, ?_, digits digit (by simp)⟩
  simp [whole]

theorem isRegionName_push_iff {name : String} {mark : Char} (named : IsRegionName name) :
    IsRegionName (name.push mark) ↔ IsDecimalDigit mark := by
  constructor
  · intro named'
    obtain ⟨start, digit, split, decimal⟩ := named'.exists_last
    rw [String.toList_push] at split
    obtain ⟨-, same⟩ := List.append_inj' split rfl
    cases same
    exact decimal
  · intro decimal
    obtain ⟨country, government, area, number, whole, marked, two, word, word', some_, digits⟩ :=
      named
    refine ⟨country, government, area, number ++ [mark], ?_, marked, two, word, word', by simp, ?_⟩
    · simp [String.toList_push, whole]
    · intro c member
      rcases List.mem_append.mp member with old | new
      · exact digits c old
      · exact List.mem_singleton.mp new ▸ decimal

end Validation

open Validation

namespace Text

/-- A text of one byte is one character of ASCII. -/
theorem utf8ByteSize_eq_one_iff {text : String} :
    text.utf8ByteSize = 1 ↔ ∃ c : Char, c.toNat < 128 ∧ text = String.singleton c := by
  constructor
  · intro one
    cases split : text.toList with
    | nil =>
      obtain rfl := String.toList_eq_nil_iff.mp split
      cases one
    | cons c rest =>
      have whole : text = String.singleton c ++ String.ofList rest := by
        apply String.toList_injective
        simp [split]
      have size := c.utf8Size_pos
      rw [whole, String.utf8ByteSize_append, String.utf8ByteSize_singleton] at one
      have none_ : (String.ofList rest).utf8ByteSize = 0 := by omega
      refine ⟨c, utf8Size_eq_one_iff.mp (by omega), ?_⟩
      rw [whole, String.utf8ByteSize_eq_zero_iff.mp none_, String.append_empty]
  · rintro ⟨c, small, rfl⟩
    rw [String.utf8ByteSize_singleton]
    exact utf8Size_eq_one_iff.mpr small

end Text

namespace Deployment

/-- The name of a region and one letter. -/
def IsLetteredZone (region zone : String) : Prop :=
  ∃ letter, IsLetter letter ∧ zone = region.push letter

theorem isZone_iff {region zone : String} :
    IsZone region zone ↔ ∃ mark : Char, mark.toNat < 128 ∧ zone = region.push mark := by
  unfold IsZone
  constructor
  · rintro ⟨text, rfl, one⟩
    obtain ⟨mark, small, rfl⟩ := Text.utf8ByteSize_eq_one_iff.mp one
    exact ⟨mark, small, String.append_singleton⟩
  · rintro ⟨mark, small, rfl⟩
    exact ⟨_, String.append_singleton.symm, Text.utf8ByteSize_eq_one_iff.mpr ⟨mark, small, rfl⟩⟩

theorem isLetteredZone_push_iff {region : String} {mark : Char} :
    IsLetteredZone region (region.push mark) ↔ IsLetter mark := by
  constructor
  · rintro ⟨letter, lettered, same⟩
    have lists := congrArg String.toList same
    rw [String.toList_push, String.toList_push] at lists
    obtain ⟨-, same⟩ := List.append_inj' lists rfl
    cases same
    exact lettered
  · intro lettered
    exact ⟨mark, lettered, rfl⟩

/-- A placement that is accepted is the region and one character of ASCII, and every such character
is accepted. Only a letter makes it a zone, and then it is not the name of a region; a digit makes
it the name of a region. -/
theorem placement_of_valid (deployment : Deployment) (zone : String)
    (accepted : deployment.validate = .ok ()) (placed : deployment.placement = some zone) :
    (∃ mark : Char, mark.toNat < 128 ∧ zone = deployment.region.push mark ∧
      (IsLetteredZone deployment.region zone ↔ IsLetter mark) ∧
      ∀ field, Validation.region field zone = .ok () ↔ IsDecimalDigit mark) ∧
    (IsLetteredZone deployment.region zone → ∀ field, Validation.region field zone ≠ .ok ()) ∧
    ∀ mark : Char, mark.toNat < 128 →
      { deployment with placement := some (deployment.region.push mark) }.validate = .ok () := by
  have valid := validate_eq_ok_iff.mp accepted
  have named : ∀ mark field, Validation.region field (deployment.region.push mark) = .ok () ↔
      IsDecimalDigit mark := by
    intro mark field
    rw [region_eq_ok_iff, isRegionName_push_iff valid.region]
  refine ⟨?_, ?_, ?_⟩
  · obtain ⟨mark, ascii, rfl⟩ := isZone_iff.mp (valid.placement zone placed)
    exact ⟨mark, ascii, rfl, isLetteredZone_push_iff, named mark⟩
  · rintro ⟨letter, lettered, rfl⟩ field
    rw [ne_eq, named]
    exact lettered.not_decimalDigit
  · intro mark ascii
    refine validate_eq_ok_iff.mpr { valid with placement := ?_ }
    rintro other ⟨⟩
    exact isZone_iff.mpr ⟨mark, ascii, rfl⟩

/-- Machines at a place in Oregon. -/
def oregon (placement : String) : Deployment where
  region := "us-west-2"
  ubuntuImage := "ami-fa9cf1ca"
  nimbusImage := "ami-1f868b2f"
  keyName := "k"
  securityGroup := "g"
  controllerType := "c"
  workerType := "w"
  placement := some placement
  placementGroup := none
  privateKey := "/k.pem"
  controllers := 1
  workers := 8

theorem placement_of_oregon : (oregon "us-west-2c").validate = .ok () ∧
    (∃ mark : Char, mark.toNat < 128 ∧ "us-west-2c" = "us-west-2".push mark ∧
      ∀ field, Validation.region field "us-west-2c" = .ok () ↔ IsDecimalDigit mark) ∧
    ∀ field, Validation.region field "us-west-2c" ≠ .ok () := by
  have accepted : (oregon "us-west-2c").validate = .ok () := by decide +kernel
  obtain ⟨⟨mark, ascii, split, -, digit⟩, lettered, -⟩ :=
    placement_of_valid (oregon "us-west-2c") "us-west-2c" accepted rfl
  exact ⟨accepted, ⟨mark, ascii, split, digit⟩, lettered ⟨'c', by decide, rfl⟩⟩

/-- A placement may be the name of another region, and a hyphen may stand for the letter. -/
theorem not_zone_of_valid : (oregon "us-west-23").validate = .ok () ∧
    ¬ IsLetteredZone (oregon "us-west-23").region "us-west-23" ∧
    Validation.region "deployment.region" "us-west-23" = .ok () ∧
    (oregon "us-west-2-").validate = .ok () ∧
    ¬ IsLetteredZone (oregon "us-west-2-").region "us-west-2-" := by
  have unlettered : ∀ mark : Char, ¬ IsLetter mark →
      ¬ IsLetteredZone "us-west-2" ("us-west-2".push mark) :=
    fun mark other => mt isLetteredZone_push_iff.mp other
  exact ⟨by decide +kernel, unlettered '3' (by decide), by decide +kernel, by decide +kernel,
    unlettered '-' (by decide)⟩

end Deployment

end LaunchConfig
