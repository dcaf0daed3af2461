import LaunchConfig.Schema.Key

/-!
Values as they are written in environment variables. The kind of the key decides how its text is
read; blanks around the text never count.
-/
namespace LaunchConfig.KeySpec

/-- The words that switch a nullable key off. -/
def nullWords : List String := ["none", "null"]

def trueWords : List String := ["true", "1", "yes", "on"]

def falseWords : List String := ["false", "0", "no", "off"]

/-- The text before one final `s`, or the whole text. -/
def withoutUnit (cs : List Char) : List Char :=
  if cs.getLast? = some 's' then cs.dropLast else cs

def readText (spec : KeySpec) (text : String) : Except ConfigError Value :=
  match spec.kind with
  | .text => .ok (.text text)
  | .count =>
    match Numeral.signed text.toList with
    | .ok held => .ok (.integer held)
    | .error fault => .error (.invalidValue spec.key (.notInteger text fault))
  | .boolean =>
    if Text.lowercase text ∈ trueWords then .ok (.boolean true)
    else if Text.lowercase text ∈ falseWords then .ok (.boolean false)
    else .error (.invalidValue spec.key (.notBoolean text))
  | .duration =>
    match Numeral.unsigned Numeral.maxUnsigned (withoutUnit text.toList) with
    | .ok held => .ok (.seconds (UInt64.ofNat held))
    | .error fault => .error (.invalidValue spec.key (.notSeconds text fault))

/-- The value that an environment variable gives the key. -/
def parseRaw (spec : KeySpec) (raw : String) : Except ConfigError Value := do
  let text := Text.trim raw
  if spec.nullable ∧ Text.lowercase text ∈ nullWords then return .null
  let value ← spec.readText text
  spec.check value
  return value

end LaunchConfig.KeySpec
