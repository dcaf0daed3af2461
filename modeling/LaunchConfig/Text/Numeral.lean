/-!
Integers of a bounded range as decimal text. Reading walks the digits from the left and reports
the first fault it meets, so a digit too many and a character that is no digit are told apart by
which comes first.
-/
namespace LaunchConfig

inductive NumeralFault
  | empty
  | invalidDigit
  | tooLarge
  | tooSmall
  deriving DecidableEq, Repr

namespace NumeralFault

def message : NumeralFault → String
  | empty => "cannot parse integer from empty string"
  | invalidDigit => "invalid digit found in string"
  | tooLarge => "number too large to fit in target type"
  | tooSmall => "number too small to fit in target type"

end NumeralFault

namespace Numeral

def maxUnsigned : Nat := 18446744073709551615

def maxSigned : Nat := 9223372036854775807

def digitValue (c : Char) : Nat :=
  c.toNat - 48

/-- Appends digits to a value, as long as the value stays within the limit. -/
def magnitude (limit : Nat) (beyond : NumeralFault) (value : Nat) :
    List Char → Except NumeralFault Nat
  | [] => .ok value
  | c :: rest =>
    if c.isDigit then
      let next := value * 10 + digitValue c
      if next ≤ limit then magnitude limit beyond next rest else .error beyond
    else .error .invalidDigit

/-- Digits, at least one. A sign without digits is an invalid digit, since it is not empty. -/
def digits (limit : Nat) (beyond : NumeralFault) : List Char → Except NumeralFault Nat
  | [] => .error .invalidDigit
  | cs => magnitude limit beyond 0 cs

def unsigned (limit : Nat) : List Char → Except NumeralFault Nat
  | [] => .error .empty
  | '+' :: rest => digits limit .tooLarge rest
  | cs => digits limit .tooLarge cs

def signed : List Char → Except NumeralFault Int64
  | [] => .error .empty
  | '-' :: rest => (digits (maxSigned + 1) .tooSmall rest).map fun n => Int64.ofInt (-n)
  | '+' :: rest => (digits maxSigned .tooLarge rest).map fun n => Int64.ofInt n
  | cs => (digits maxSigned .tooLarge cs).map fun n => Int64.ofInt n

/-- The decimal digits of an integer, after a minus sign if it is negative. -/
def decimal (n : Int) : List Char :=
  if n < 0 then '-' :: Nat.toDigits 10 n.natAbs else Nat.toDigits 10 n.natAbs

end Numeral

end LaunchConfig
