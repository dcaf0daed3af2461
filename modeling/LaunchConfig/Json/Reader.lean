import LaunchConfig.Binary64
import LaunchConfig.Json.Basic
import LaunchConfig.Text.Hex
import LaunchConfig.Text.Numeral

/-!
Reading JSON text. Strings are read by a machine that looks at one character at a time. Values nest
up to a fixed level, and the readers of lists of parts are given as many steps as there are
characters.
-/
namespace LaunchConfig

namespace Json

def isGap (c : Char) : Bool :=
  c = ' ' || c = '\t' || c = '\n' || c = '\r'

/-- Where the reader of a string stands: in plain text, after a backslash, among the digits of an
escape, or between the two halves of a pair of surrogates. -/
inductive StringState
  | plain
  | escape
  | digits (left value : Nat)
  | high (surrogate : Nat)
  | highEscape (surrogate : Nat)
  | lowDigits (surrogate left value : Nat)
  deriving DecidableEq, Repr

namespace StringState

def letter? (c : Char) : Option Char :=
  if c = '"' then some '"'
  else if c = '\\' then some '\\'
  else if c = '/' then some '/'
  else if c = 'b' then some '\x08'
  else if c = 'f' then some '\x0c'
  else if c = 'n' then some '\n'
  else if c = 'r' then some '\r'
  else if c = 't' then some '\t'
  else none

def complete (value : Nat) : Option (StringState × List Char) :=
  if 0xD800 ≤ value ∧ value < 0xDC00 then some (high value, [])
  else (Text.scalar? value).map fun c => (plain, [c])

/-- The state after one more character, and the characters of the string that are complete. The
closing quote is no business of this function. -/
def step (state : StringState) (c : Char) : Option (StringState × List Char) :=
  match state with
  | plain =>
    if c = '\\' then some (escape, [])
    else if c.toNat < 0x20 then none
    else some (plain, [c])
  | escape =>
    if c = 'u' then some (digits 3 0, [])
    else (letter? c).map fun held => (plain, [held])
  | digits left value =>
    (Text.hexValue? c).bind fun digit =>
      match left with
      | 0 => complete (value * 16 + digit)
      | left + 1 => some (digits left (value * 16 + digit), [])
  | high surrogate => if c = '\\' then some (highEscape surrogate, []) else none
  | highEscape surrogate => if c = 'u' then some (lowDigits surrogate 3 0, []) else none
  | lowDigits surrogate left value =>
    (Text.hexValue? c).bind fun digit =>
      let value := value * 16 + digit
      match left with
      | 0 =>
        if 0xDC00 ≤ value ∧ value < 0xE000 then
          (Text.scalar? (0x10000 + (surrogate - 0xD800) * 0x400 + (value - 0xDC00))).map
            fun c => (plain, [c])
        else none
      | left + 1 => some (lowDigits surrogate left value, [])

end StringState

def readString (state : StringState) : List Char → Option (List Char × List Char)
  | [] => none
  | c :: rest =>
    if state = .plain ∧ c = '"' then some ([], rest)
    else
      (state.step c).bind fun (next, complete) =>
        (readString next rest).map fun (held, behind) => (complete ++ held, behind)

def digitRun? (cs : List Char) : Option (List Char × List Char) :=
  let run := cs.takeWhile Char.isDigit
  if run.isEmpty then none else some (run, cs.dropWhile Char.isDigit)

def wholeRun? (cs : List Char) : Option (List Char × List Char) :=
  (digitRun? cs).bind fun (run, rest) =>
    if 1 < run.length ∧ run.head? = some '0' then none else some (run, rest)

def fractionRun? : List Char → Option (List Char × List Char)
  | '.' :: rest => digitRun? rest
  | rest => some ([], rest)

def exponentRun? : List Char → Option (Bool × List Char × List Char)
  | [] => some (false, [], [])
  | c :: rest =>
    if c = 'e' ∨ c = 'E' then
      let (negative, rest) := match rest with
        | '-' :: behind => (true, behind)
        | '+' :: behind => (false, behind)
        | behind => (false, behind)
      (digitRun? rest).map fun (run, behind) => (negative, run, behind)
    else some (false, [], c :: rest)

/-- Takes up digits as long as the number that they write has 64 bits: that number, and how many
digits were taken up. -/
def gather (held : Nat) : List Char → Nat × Nat
  | [] => (held, 0)
  | c :: rest =>
    let next := held * 10 + (c.toNat - '0'.toNat)
    if next ≤ Numeral.maxUnsigned then
      let (gathered, count) := gather next rest
      (gathered, count + 1)
    else (held, 0)

/-- A number by its leading digits, as many as 64 bits hold, and the power of ten that they count.
Digits that were not taken up count as zeros before the point and not at all behind it. -/
def leading (whole fraction : List Char) (power : Int) : Nat × Int :=
  let (held, count) := gather 0 whole
  let (held, places) := gather held fraction
  (held, (whole.length - count : Nat) - (places : Int) + power)

/-- Leading digits times a power of ten lie within the range of binary floating-point numbers, when
both factors and then the product are rounded to such numbers. -/
def isBounded (digits : Nat) (power : Int) : Bool :=
  digits = 0 || power < 0 || (power ≤ 308 &&
    (Binary64.ofDecimal false digits 0).times (Binary64.ofDecimal false 1 power) ≠ .infinite false)

/-- The number that a whole token writes. One that is not an integer of 64 bits has to lie within the
range of binary floating-point numbers. -/
def number? (token : List Char) : Option Json :=
  let (negative, unsigned) := match token with
    | '-' :: rest => (true, rest)
    | rest => (false, rest)
  (wholeRun? unsigned).bind fun (whole, rest) =>
    let value := Nat.ofDigitChars 10 whole 0
    if rest.isEmpty && value ≤ Numeral.maxUnsigned && !(negative && value = 0) then
      some (integer (if negative then -value else value))
    else
      (fractionRun? rest).bind fun (fraction, rest) =>
        (exponentRun? rest).bind fun (below, exponent, rest) =>
          let size : Int := Nat.ofDigitChars 10 exponent 0
          let (digits, power) := leading whole fraction (if below then -size else size)
          if rest.isEmpty && isBounded digits power then some (real (String.ofList token))
          else none

def isTokenChar (c : Char) : Bool :=
  c.isAlphanum || c = '+' || c = '-' || c = '.'

def readToken (cs : List Char) : Option (Json × List Char) :=
  let token := cs.takeWhile isTokenChar
  let held :=
    if token = ['n', 'u', 'l', 'l'] then some null
    else if token = ['t', 'r', 'u', 'e'] then some (boolean true)
    else if token = ['f', 'a', 'l', 's', 'e'] then some (boolean false)
    else number? token
  held.map fun value => (value, cs.dropWhile isTokenChar)

def readPlain (cs : List Char) : Option (Json × List Char) :=
  match cs with
  | '"' :: rest =>
    (readString .plain rest).map fun (held, behind) => (string (String.ofList held), behind)
  | token => readToken token

def readItems (readItem : List Char → Option (Json × List Char)) :
    Nat → List Char → Option (List Json × List Char)
  | 0, _ => none
  | steps + 1, cs =>
    (readItem cs).bind fun (item, rest) =>
      match rest.dropWhile isGap with
      | ',' :: rest =>
        (readItems readItem steps rest).map fun (items, behind) => (item :: items, behind)
      | ']' :: rest => some ([item], rest)
      | _ => none

def readMember (readItem : List Char → Option (Json × List Char)) (cs : List Char) :
    Option ((String × Json) × List Char) :=
  match cs.dropWhile isGap with
  | '"' :: rest =>
    (readString .plain rest).bind fun (name, rest) =>
      match rest.dropWhile isGap with
      | ':' :: rest =>
        (readItem rest).map fun (value, behind) => ((String.ofList name, value), behind)
      | _ => none
  | _ => none

def readMembers (readItem : List Char → Option (Json × List Char)) :
    Nat → List Char → Option (List (String × Json) × List Char)
  | 0, _ => none
  | steps + 1, cs =>
    (readMember readItem cs).bind fun (member, rest) =>
      match rest.dropWhile isGap with
      | ',' :: rest =>
        (readMembers readItem steps rest).map fun (members, behind) => (member :: members, behind)
      | '\x7d' :: rest => some ([member], rest)
      | _ => none

def readArray (readItem : List Char → Option (Json × List Char)) (cs : List Char) :
    Option (Json × List Char) :=
  match cs.dropWhile isGap with
  | ']' :: behind => some (array [], behind)
  | items => (readItems readItem items.length items).map fun (held, behind) => (array held, behind)

def readObject (readItem : List Char → Option (Json × List Char)) (cs : List Char) :
    Option (Json × List Char) :=
  match cs.dropWhile isGap with
  | '\x7d' :: behind => some (object [], behind)
  | members =>
    (readMembers readItem members.length members).map fun (held, behind) => (object held, behind)

/-- A value with at most the given number of brackets around its innermost part, and the text after
it. -/
def read : Nat → List Char → Option (Json × List Char)
  | 0, cs => readPlain (cs.dropWhile isGap)
  | level + 1, cs =>
    match cs.dropWhile isGap with
    | '[' :: rest => readArray (read level) rest
    | '\x7b' :: rest => readObject (read level) rest
    | plain => readPlain plain

def maxLevel : Nat := 127

def parse? (text : String) : Option Json :=
  match read maxLevel text.toList with
  | some (value, rest) => if (rest.dropWhile isGap).isEmpty then some value else none
  | none => none

end Json

end LaunchConfig
