import LaunchConfig.Text.Numeral

/-!
Dates and times of day in TOML: a calendar date, a time, or both, and with both an offset from
universal time.
-/
namespace LaunchConfig.Toml

structure Date where
  year : Nat
  month : Nat
  day : Nat
  deriving DecidableEq, Repr

structure Time where
  hour : Nat
  minute : Nat
  second : Nat
  nanosecond : Nat
  deriving DecidableEq, Repr

inductive Offset
  | universal
  | minutes (ahead : Int)
  deriving DecidableEq, Repr

/-- A date, a time, or both. -/
inductive Moment
  | date (day : Date)
  | time (clock : Time)
  | both (day : Date) (clock : Time) (offset : Option Offset)
  deriving DecidableEq, Repr

def padded (width n : Nat) : List Char :=
  let digits := Nat.toDigits 10 n
  List.replicate (width - digits.length) '0' ++ digits

def fixed? (width : Nat) (cs : List Char) : Option (Nat × List Char) :=
  let digits := cs.take width
  if digits.length = width ∧ digits.all Char.isDigit then
    some (Nat.ofDigitChars 10 digits 0, cs.drop width)
  else none

namespace Date

def daysIn (year month : Nat) : Nat :=
  if month = 2 then
    if year % 4 = 0 ∧ (year % 100 ≠ 0 ∨ year % 400 = 0) then 29 else 28
  else if month = 4 ∨ month = 6 ∨ month = 9 ∨ month = 11 then 30
  else 31

def text (date : Date) : List Char :=
  padded 4 date.year ++ '-' :: padded 2 date.month ++ '-' :: padded 2 date.day

def read? (cs : List Char) : Option (Date × List Char) :=
  match fixed? 4 cs with
  | some (year, '-' :: rest) =>
    match fixed? 2 rest with
    | some (month, '-' :: rest) =>
      match fixed? 2 rest with
      | some (day, rest) =>
        if 1 ≤ month ∧ month ≤ 12 ∧ 1 ≤ day ∧ day ≤ daysIn year month then
          some (⟨year, month, day⟩, rest)
        else none
      | none => none
    | _ => none
  | _ => none

end Date

namespace Time

/-- The time in digits. A fraction of a second is written without zeros at its end. -/
def text (time : Time) : List Char :=
  padded 2 time.hour ++ ':' :: padded 2 time.minute ++ ':' :: padded 2 time.second
    ++ if time.nanosecond = 0 then []
      else '.' :: ((padded 9 time.nanosecond).reverse.dropWhile (· = '0')).reverse

/-- The nanoseconds that a fraction of a second writes. Digits after the ninth are dropped. -/
def nanoseconds (digits : List Char) : Nat :=
  let kept := digits.take 9
  Nat.ofDigitChars 10 kept 0 * Nat.pow 10 (9 - kept.length)

/-- The seconds of a time with their fraction, in seconds and nanoseconds, and what follows them. A
minute may have a sixty-first second. -/
def readSeconds? (cs : List Char) : Option (Nat × Nat × List Char) :=
  match fixed? 2 cs with
  | some (second, rest) =>
    if 60 < second then none
    else
      match rest with
      | '.' :: fraction =>
        let digits := fraction.takeWhile Char.isDigit
        if digits.isEmpty then none
        else some (second, nanoseconds digits, fraction.dropWhile Char.isDigit)
      | rest => some (second, 0, rest)
  | none => none

/-- A time, and what follows it. The seconds may be left out. -/
def read? (cs : List Char) : Option (Time × List Char) :=
  match fixed? 2 cs with
  | some (hour, ':' :: rest) =>
    match fixed? 2 rest with
    | some (minute, rest) =>
      if 23 < hour ∨ 59 < minute then none
      else
        match rest with
        | ':' :: rest =>
          (readSeconds? rest).map fun (second, nanosecond, behind) =>
            (⟨hour, minute, second, nanosecond⟩, behind)
        | rest => some (⟨hour, minute, 0, 0⟩, rest)
    | none => none
  | _ => none

end Time

namespace Offset

def text : Offset → List Char
  | universal => ['Z']
  | minutes ahead =>
    (if ahead < 0 then '-' else '+') :: padded 2 (ahead.natAbs / 60)
      ++ ':' :: padded 2 (ahead.natAbs % 60)

def read? : List Char → Option Offset
  | [] => none
  | c :: rest =>
    if c = 'Z' ∨ c = 'z' then if rest.isEmpty then some universal else none
    else if c = '+' ∨ c = '-' then
      match fixed? 2 rest with
      | some (hours, ':' :: rest) =>
        match fixed? 2 rest with
        | some (minute, []) =>
          let ahead : Int := hours * 60 + minute
          if hours ≤ 23 ∧ minute ≤ 59 then some (minutes (if c = '-' then -ahead else ahead))
          else none
        | _ => none
      | _ => none
    else none

end Offset

namespace Moment

def text : Moment → List Char
  | date day => day.text
  | time clock => clock.text
  | both day clock offset =>
    day.text ++ 'T' :: clock.text ++ (offset.map Offset.text).getD []

def read? (cs : List Char) : Option Moment :=
  match Date.read? cs with
  | some (found, []) => some (date found)
  | some (found, separator :: rest) =>
    if separator = 'T' ∨ separator = 't' ∨ separator = ' ' then
      match Time.read? rest with
      | some (clock, []) => some (both found clock none)
      | some (clock, rest) => (Offset.read? rest).map fun offset => both found clock (some offset)
      | none => none
    else none
  | none =>
    match Time.read? cs with
    | some (clock, []) => some (time clock)
    | _ => none

end Moment

end LaunchConfig.Toml
