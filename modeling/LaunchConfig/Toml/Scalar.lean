import LaunchConfig.Text.Hex
import LaunchConfig.Toml.Basic

/-!
TOML values without quotes and brackets: truth values, integers, floats and moments. Each is one
token, which is classified as a whole.
-/
namespace LaunchConfig.Toml

def isTokenChar (c : Char) : Bool :=
  c.isAlphanum || c = '_' || c = '+' || c = '-' || c = '.' || c = ':'

/-- Digits without their separators. A separator stands between two digits. -/
def ungroup? (isDigit : Char → Bool) : List Char → Option (List Char)
  | [] => none
  | [c] => if isDigit c then some [c] else none
  | c :: '_' :: rest => if isDigit c then (ungroup? isDigit rest).map (c :: ·) else none
  | c :: next :: rest =>
    if isDigit c then (ungroup? isDigit (next :: rest)).map (c :: ·) else none

def splitSign : List Char → Bool × List Char
  | '-' :: rest => (true, rest)
  | '+' :: rest => (false, rest)
  | rest => (false, rest)

def whole? (cs : List Char) : Option (List Char) :=
  (ungroup? Char.isDigit cs).bind fun digits =>
    if 1 < digits.length ∧ digits.head? = some '0' then none else some digits

def base? (c : Char) : Option Nat :=
  if c = 'x' then some 16 else if c = 'o' then some 8 else if c = 'b' then some 2 else none

def ofDigits (base : Nat) (digits : List Char) : Nat :=
  digits.foldl (fun value c => value * base + (Text.hexValue? c).getD 0) 0

def bounded? (negative : Bool) (magnitude : Nat) : Option Int64 :=
  if negative then if magnitude ≤ Numeral.maxSigned + 1 then some (Int64.ofInt (-magnitude)) else none
  else if magnitude ≤ Numeral.maxSigned then some (Int64.ofInt magnitude) else none

/-- The integer that a token writes: the form is right, and the value, if it has 64 bits. -/
def integer? (token : List Char) : Option (Option Int64) :=
  match token with
  | '0' :: lead :: digits =>
    (base? lead).bind fun base =>
      (ungroup? (fun c => (Text.hexValue? c).any (· < base)) digits).map fun digits =>
        bounded? false (ofDigits base digits)
  | token =>
    let (negative, rest) := splitSign token
    (whole? rest).map fun digits => bounded? negative (Nat.ofDigitChars 10 digits 0)

def float? (token : List Char) : Option Binary64 :=
  let (negative, rest) := splitSign token
  if rest = ['i', 'n', 'f'] then some (.infinite negative)
  else if rest = ['n', 'a', 'n'] then some .nan
  else
    let isExponentMark := fun c => c = 'e' || c = 'E'
    let mantissa := rest.takeWhile fun c => !isExponentMark c
    let power := match rest.dropWhile fun c => !isExponentMark c with
      | [] => some 0
      | _ :: exponent =>
        let (below, digits) := splitSign exponent
        (ungroup? Char.isDigit digits).map fun digits =>
          let size : Int := Nat.ofDigitChars 10 digits 0
          if below then -size else size
    let before := mantissa.takeWhile (· ≠ '.')
    let fraction := match mantissa.dropWhile (· ≠ '.') with
      | [] => some []
      | _ :: digits => ungroup? Char.isDigit digits
    match whole? before, fraction, power with
    | some digits, some fraction, some power =>
      let held := Binary64.ofDecimal negative (Nat.ofDigitChars 10 (digits ++ fraction) 0)
        (power - fraction.length)
      if held = .infinite negative then none else some held
    | _, _, _ => none

def scalar? (token : List Char) : Option Toml :=
  if token = ['t', 'r', 'u', 'e'] then some (.boolean true)
  else if token = ['f', 'a', 'l', 's', 'e'] then some (.boolean false)
  else
    match integer? token with
    | some (some held) => some (.integer held)
    | some none => none
    | none =>
      match float? token with
      | some held => some (.float held)
      | none => (Moment.read? token).map .moment

/-- A token with an unquoted value, and what follows it. A date may be set apart from its time by
one blank. -/
def readScalar (cs : List Char) : Option (Toml × List Char) :=
  let token := cs.takeWhile isTokenChar
  let rest := cs.dropWhile isTokenChar
  match Date.read? token, rest with
  | some (_, []), ' ' :: c :: behind =>
    if c.isDigit then
      let clock := (c :: behind).takeWhile isTokenChar
      (Moment.read? (token ++ ' ' :: clock)).map fun held =>
        (.moment held, (c :: behind).dropWhile isTokenChar)
    else (scalar? token).map fun held => (held, rest)
  | _, _ => (scalar? token).map fun held => (held, rest)

end LaunchConfig.Toml
