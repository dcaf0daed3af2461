import LaunchConfig.Duration
import LaunchConfig.Error
import LaunchConfig.Text.Blank
import LaunchConfig.Text.Hex

/-!
Rules for the fields of sections. A rule either accepts a value or gives its complaint, which names
the field.
-/
namespace LaunchConfig.Validation

abbrev Verdict := Except Complaint Unit

def ensure (test : Bool) (complaint : Complaint) : Verdict :=
  if test then .ok () else .error complaint

def notEmpty (field value : String) : Verdict :=
  ensure (!Text.isBlankText value) (.empty field)

def port (field : String) (value : UInt16) : Verdict :=
  ensure (value ≠ 0) (.zero field)

def count (field : String) (limit value : UInt64) : Verdict := do
  ensure (value ≠ 0) (.notPositive field)
  ensure (value ≤ limit) (.above field limit.toNat)

def period (field : String) (value : Duration) : Verdict :=
  ensure (!value.isZero) (.noPeriod field)

/-- A machine image is named by hexadecimal digits after a fixed start. -/
def isImage (name : String) : Bool :=
  match Text.dropStart? "ami-" name with
  | some digits => !digits.isEmpty && digits.toList.all fun c => (Text.hexValue? c).isSome
  | none => false

def image (field value : String) : Verdict :=
  ensure (isImage value) (.notImage field value)

/-- The three parts of a region's name: a country of two bytes, an area and a number. -/
def isRegionOf (country area number : List Char) : Bool :=
  (String.ofList country).utf8ByteSize = 2 && country.all Char.isLower
    && !area.isEmpty && area.all Char.isLower
    && !number.isEmpty && number.all Char.isDigit

/-- A region is named by its country, area and number. The areas of a government are marked as
such after the country. -/
def isRegion (name : String) : Bool :=
  match Text.parts '-' name.toList with
  | [country, area, number] => isRegionOf country area number
  | [country, mark, area, number] => mark = ['g', 'o', 'v'] && isRegionOf country area number
  | _ => false

def region (field value : String) : Verdict :=
  ensure (isRegion value) (.notRegion field value)

end LaunchConfig.Validation
