import LaunchConfig.Proofs.Validation

/-!
The language of region names, and how a name is read. A name has three parts, or four when the second
one marks a government's region. A region of a government without an area of its own has the mark as
its area, so the mark never makes a name ambiguous: the number of parts says what it is.
-/
namespace LaunchConfig.Validation

/-- What the name of a region says. -/
structure RegionParts where
  country : List Char
  government : Bool
  area : List Char
  number : List Char
  deriving DecidableEq

namespace RegionParts

/-- The parts in the order of the name. -/
def pieces (parts : RegionParts) : List (List Char) :=
  if parts.government then [parts.country, ['g', 'o', 'v'], parts.area, parts.number]
  else [parts.country, parts.area, parts.number]

/-- The parts are those of a region, and the text is they with hyphens between them. -/
structure Name (parts : RegionParts) (name : String) : Prop where
  text : name.toList = ['-'].intercalate parts.pieces
  two : parts.country.length = 2
  country : IsWord parts.country
  area : IsWord parts.area
  number : IsNumber parts.number

theorem Name.parts_eq {parts : RegionParts} {name : String} (named : parts.Name name) :
    Text.parts '-' name.toList = parts.pieces := by
  rw [named.text]
  have country := named.country.hyphen_notMem
  have area := named.area.hyphen_notMem
  have number := named.number.hyphen_notMem
  apply Text.parts_intercalate
  · unfold pieces
    split <;> simp
  · unfold pieces
    split <;> simp [country, area, number]

theorem pieces_inj {parts other : RegionParts} (same : parts.pieces = other.pieces) :
    parts = other := by
  obtain ⟨country, government, area, number⟩ := parts
  obtain ⟨country', government', area', number'⟩ := other
  cases government <;> cases government' <;> simp_all [pieces]

/-- A name is read in one way only. -/
theorem Name.unique {parts other : RegionParts} {name : String} (named : parts.Name name)
    (named' : other.Name name) : parts = other :=
  pieces_inj (named.parts_eq.symm.trans named'.parts_eq)

theorem Name.iff_eq {parts : RegionParts} {name : String} (named : parts.Name name)
    (other : RegionParts) : other.Name name ↔ other = parts :=
  ⟨fun named' => named'.unique named, fun same => same ▸ named⟩

/-- The mark of a government, where nothing follows it but a number, is an area. -/
theorem name_of_mark {country number : List Char} (two : country.length = 2)
    (letters : IsWord country) (digits : IsNumber number) :
    Name ⟨country, false, ['g', 'o', 'v'], number⟩
      (String.ofList (country ++ '-' :: 'g' :: 'o' :: 'v' :: '-' :: number)) where
  text := by simp [pieces]
  two := two
  country := letters
  area := isWord_iff.mpr ⟨rfl, rfl⟩
  number := digits

end RegionParts

theorem isRegionName_iff_exists {name : String} :
    IsRegionName name ↔ ∃ parts : RegionParts, parts.Name name := by
  constructor
  · rintro ⟨country, mark, area, number, whole, rfl | rfl, two, word, word', digits⟩
    · refine ⟨⟨country, false, area, number⟩, ?_, two, word, word', digits⟩
      simp [whole, RegionParts.pieces]
    · refine ⟨⟨country, true, area, number⟩, ?_, two, word, word', digits⟩
      simp [whole, RegionParts.pieces]
  · rintro ⟨⟨country, government, area, number⟩, whole, two, word, word', digits⟩
    refine ⟨country, if government then ['g', 'o', 'v', '-'] else [], area, number, ?_, ?_, two,
      word, word', digits⟩
    · cases government <;> simp [whole, RegionParts.pieces]
    · cases government <;> simp

theorem isRegionName_iff_existsUnique {name : String} :
    IsRegionName name ↔ ∃! parts : RegionParts, parts.Name name := by
  rw [isRegionName_iff_exists]
  constructor
  · rintro ⟨parts, named⟩
    exact ⟨parts, named, fun other named' => named'.unique named⟩
  · exact ExistsUnique.exists

theorem RegionParts.Name.accepted {parts : RegionParts} {name : String} (named : parts.Name name)
    (field : String) : region field name = .ok () :=
  region_eq_ok_iff.mpr (isRegionName_iff_exists.mpr ⟨parts, named⟩)

theorem region_eq_error_iff {field name : String} :
    region field name = .error (.notRegion field name) ↔ ¬ IsRegionName name := by
  rw [← isRegion_iff, region, ensure]
  cases isRegion name <;> simp

/-- The rule for regions accepts their names and refuses every other text with one complaint. A name
is read in one way only: with the mark of a government before an area the mark is no area, and
without an area of its own it is. -/
theorem region_language (field name : String) :
    (region field name = .ok () ↔ IsRegionName name) ∧
    (region field name = .error (.notRegion field name) ↔ ¬ IsRegionName name) ∧
    (ConfigError.validation (.notRegion field name)).message =
      "validation error: " ++ (field ++ " is not a region name: " ++ name) ∧
    (IsRegionName name ↔ ∃! parts : RegionParts, parts.Name name) ∧
    (region field "us-gov-east-1" = .ok () ∧ ∀ parts : RegionParts,
      parts.Name "us-gov-east-1" ↔ parts = ⟨['u', 's'], true, ['e', 'a', 's', 't'], ['1']⟩) ∧
    (region field "us-gov-1" = .ok () ∧ ∀ parts : RegionParts,
      parts.Name "us-gov-1" ↔ parts = ⟨['u', 's'], false, ['g', 'o', 'v'], ['1']⟩) := by
  have country : IsWord ['u', 's'] := isWord_iff.mpr ⟨rfl, rfl⟩
  have number : IsNumber ['1'] := isNumber_iff.mpr ⟨rfl, rfl⟩
  have east : RegionParts.Name ⟨['u', 's'], true, ['e', 'a', 's', 't'], ['1']⟩ "us-gov-east-1" :=
    ⟨by decide, rfl, country, isWord_iff.mpr ⟨rfl, rfl⟩, number⟩
  have bare : RegionParts.Name ⟨['u', 's'], false, ['g', 'o', 'v'], ['1']⟩ "us-gov-1" :=
    RegionParts.name_of_mark rfl country number
  exact ⟨region_eq_ok_iff, region_eq_error_iff, rfl, isRegionName_iff_existsUnique,
    ⟨east.accepted field, east.iff_eq⟩, bare.accepted field, bare.iff_eq⟩

end LaunchConfig.Validation
