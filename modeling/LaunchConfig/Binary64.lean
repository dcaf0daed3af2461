/-!
Binary floating-point numbers of 64 bits as exact integers: a mantissa times a power of two. Reading
rounds a decimal to the nearest number, a tie to the even mantissa. Printing takes the fewest digits
that read back, and of these the nearest.
-/
namespace LaunchConfig

/-- A number of the binary format, or one of its special values. What is no number has no sign. -/
inductive Binary64
  | nan
  | infinite (negative : Bool)
  | finite (negative : Bool) (mantissa : Nat) (exponent : Int)
  deriving DecidableEq, Repr, Inhabited

namespace Binary64

def minExponent : Int := -1074

def maxExponent : Int := 971

def roundQuotient (numerator denominator : Nat) : Nat :=
  let floor := numerator / denominator
  let twice := 2 * (numerator % denominator)
  if twice < denominator then floor
  else if denominator < twice then floor + 1
  else floor + floor % 2

def scale (base numerator denominator : Nat) (power : Int) : Nat × Nat :=
  if 0 ≤ power then (numerator * Nat.pow base power.toNat, denominator)
  else (numerator, denominator * Nat.pow base (-power).toNat)

def ofFraction (negative : Bool) (numerator denominator : Nat) : Binary64 :=
  let guess : Int := (numerator.log2 : Int) - denominator.log2 - 52
  let (n, d) := scale 2 numerator denominator (-guess)
  let exponent := max minExponent (if n < Nat.pow 2 52 * d then guess - 1 else guess)
  let (n, d) := scale 2 numerator denominator (-exponent)
  let rounded := roundQuotient n d
  let (mantissa, exponent) :=
    if rounded = Nat.pow 2 53 then (Nat.pow 2 52, exponent + 1) else (rounded, exponent)
  if maxExponent < exponent then infinite negative else finite negative mantissa exponent

/-- The number nearest to `digits * 10 ^ power`. A power far outside the format decides at once, so
its size costs nothing. -/
def ofDecimal (negative : Bool) (digits : Nat) (power : Int) : Binary64 :=
  let places := (Nat.toDigits 10 digits).length + power
  if digits = 0 ∨ places < -400 then finite negative 0 minExponent
  else if 400 < places then infinite negative
  else
    let (n, d) := scale 10 digits 1 power
    ofFraction negative n d

/-- The number nearest to a product. A product of nothing and the infinite is no number. -/
def times : Binary64 → Binary64 → Binary64
  | finite negative mantissa exponent, finite negative' mantissa' exponent' =>
    if mantissa * mantissa' = 0 then finite (negative != negative') 0 minExponent
    else
      let (n, d) := scale 2 (mantissa * mantissa') 1 (exponent + exponent')
      ofFraction (negative != negative') n d
  | infinite negative, finite negative' mantissa _ =>
    if mantissa = 0 then nan else infinite (negative != negative')
  | finite negative mantissa _, infinite negative' =>
    if mantissa = 0 then nan else infinite (negative != negative')
  | infinite negative, infinite negative' => infinite (negative != negative')
  | nan, _ => nan
  | _, nan => nan

/-- How many places the point stands right of the first digit of a positive fraction; zero or less
if the fraction is below one. -/
def leadingPlace (numerator denominator : Nat) : Nat → Int
  | 0 => 0
  | fuel + 1 =>
    if denominator ≤ numerator then (Nat.toDigits 10 (numerator / denominator)).length
    else leadingPlace (numerator * 10) denominator fuel - 1

/-- The decimal with the given number of digits that reads back as the number, if there is one: an
integer and the power of ten that it counts. Both neighbours of the number on the decimal grid are
tried, and the nearer wins; of two equally near ones, it is the larger. -/
def candidate? (mantissa : Nat) (exponent place : Int) (count : Nat) : Option (Nat × Int) :=
  let power := place - count
  let below := if mantissa = Nat.pow 2 52 ∧ minExponent < exponent then 1 else 2
  let tens := scale 10 1 1 power
  let quarters := scale 2 1 1 (exponent - 2)
  let onGrid (c : Nat) : Nat := c * tens.1 * quarters.2
  let inQuarters (x : Nat) : Nat := x * quarters.1 * tens.2
  let value := inQuarters (4 * mantissa)
  let low := inQuarters (4 * mantissa - below)
  let high := inQuarters (4 * mantissa + 2)
  let readsBack (c : Nat) : Bool :=
    if mantissa % 2 = 0 then low ≤ onGrid c && onGrid c ≤ high
    else low < onGrid c && onGrid c < high
  let floor := value / onGrid 1
  let nearer := if onGrid (floor + 1) - value ≤ value - onGrid floor then floor + 1 else floor
  let other := if nearer = floor then floor + 1 else floor
  if readsBack nearer then some (nearer, power)
  else if readsBack other then some (other, power)
  else none

/-- The fewest digits that read back as a positive number. Seventeen always do. -/
def shortest (mantissa : Nat) (exponent : Int) : Nat × Int :=
  let (n, d) := scale 2 mantissa 1 exponent
  let place := leadingPlace n d 400
  let found := (List.range 17).findSome? fun count =>
    candidate? mantissa exponent place (count + 1)
  found.getD (mantissa, 0)

def dropZeros : Nat → Nat → Int → Nat × Int
  | 0, digits, power => (digits, power)
  | fuel + 1, digits, power =>
    if digits ≠ 0 ∧ digits % 10 = 0 then dropZeros fuel (digits / 10) (power + 1)
    else (digits, power)

def positional (digits : Nat) (power : Int) : List Char :=
  let (digits, power) := dropZeros 400 digits power
  let ds := Nat.toDigits 10 digits
  if 0 ≤ power then ds ++ List.replicate power.toNat '0' ++ ['.', '0']
  else
    let behind := (-power).toNat
    if behind < ds.length then ds.take (ds.length - behind) ++ '.' :: ds.drop (ds.length - behind)
    else '0' :: '.' :: List.replicate (behind - ds.length) '0' ++ ds

def text : Binary64 → List Char
  | nan => ['n', 'a', 'n']
  | infinite negative => (if negative then ['-'] else []) ++ ['i', 'n', 'f']
  | finite negative mantissa exponent =>
    let (digits, power) := if mantissa = 0 then (0, 0) else shortest mantissa exponent
    (if negative then ['-'] else []) ++ positional digits power

end Binary64

end LaunchConfig
