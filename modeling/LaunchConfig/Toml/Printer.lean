import LaunchConfig.Toml.Basic

/-!
TOML as text. A table of the outermost level has one line for each key; every value stands on that
line, unless it is a text with line breaks. A text is written with as little escaping as its
characters allow.
-/
namespace LaunchConfig.Toml

def isControl (c : Char) : Bool :=
  c.toNat < 0x20 || c.toNat == 0x7F

def isBareChar (c : Char) : Bool :=
  c.isAlphanum || c = '_' || c = '-'

def fourDigits (n : Nat) : List Char :=
  [n / 4096 % 16, n / 256 % 16, n / 16 % 16, n % 16].map fun digit => digit.digitChar.toUpper

/-- The escape of a character other than a quote, if the character needs one. A line break needs
one only on a single line. -/
def escape? (block : Bool) (c : Char) : Option (List Char) :=
  if c = '\x08' then some ['\\', 'b']
  else if c = '\t' then some ['\\', 't']
  else if c = '\n' then if block then none else some ['\\', 'n']
  else if c = '\x0c' then some ['\\', 'f']
  else if c = '\r' then some ['\\', 'r']
  else if c = '\\' then some ['\\', '\\']
  else if isControl c then some ('\\' :: 'u' :: fourDigits c.toNat)
  else none

/-- Characters between double quotes. At most `spare` quotes in a row stay as they are, and `quotes`
of them have just been written. -/
def escaped (block : Bool) (spare quotes : Nat) : List Char → List Char
  | [] => []
  | c :: rest =>
    if c = '"' then
      if quotes < spare then '"' :: escaped block spare (quotes + 1) rest
      else '\\' :: '"' :: escaped block spare 0 rest
    else match escape? block c with
      | some written => written ++ escaped block spare 0 rest
      | none => c :: escaped block spare 0 rest

def longestRow (wanted : Char) (current longest : Nat) : List Char → Nat
  | [] => max current longest
  | c :: rest =>
    if c = wanted then longestRow wanted (current + 1) longest rest
    else longestRow wanted 0 (max current longest) rest

/-- The four ways to write a text: on one line or as a block, with escapes or literally. -/
inductive TextStyle
  | line
  | literalLine
  | block
  | literalBlock
  deriving DecidableEq, Repr

/-- The first way that needs no escape, and otherwise the way with escapes. -/
def textStyle (cs : List Char) : TextStyle :=
  let broken := cs.any fun c => isControl c && c ≠ '\t' && c ≠ '\n'
  let lines := cs.contains '\n'
  if !broken && !cs.contains '\\' && !cs.contains '"' && !lines then .line
  else if !broken && !cs.contains '\'' && !lines then .literalLine
  else if !broken && !cs.contains '\\' && longestRow '"' 0 0 cs ≤ 2 then .block
  else if !broken && longestRow '\'' 0 0 cs ≤ 2 then .literalBlock
  else if lines then .block
  else .line

/-- What stands between the opening quotes of a block and the text. -/
def blockStart (cs : List Char) : List Char :=
  if cs.contains '\n' then ['\n'] else []

def writeStyled (style : TextStyle) (cs : List Char) : List Char :=
  match style with
  | .line => '"' :: escaped false 0 0 cs ++ ['"']
  | .literalLine => '\'' :: cs ++ ['\'']
  | .block => ['"', '"', '"'] ++ blockStart cs ++ escaped true 2 0 cs ++ ['"', '"', '"']
  | .literalBlock => ['\'', '\'', '\''] ++ blockStart cs ++ cs ++ ['\'', '\'', '\'']

def writeText (s : String) : List Char :=
  writeStyled (textStyle s.toList) s.toList

def writeKey (key : String) : List Char :=
  let cs := key.toList
  let broken := cs.any fun c => isControl c && c ≠ '\t'
  if !cs.isEmpty && cs.all isBareChar then cs
  else if !broken && !cs.contains '\\' && !cs.contains '"' then writeStyled .line cs
  else if !broken && !cs.contains '\'' then writeStyled .literalLine cs
  else writeStyled .line cs

mutual

def write : Toml → List Char
  | text held => writeText held
  | integer held => Numeral.decimal held.toInt
  | float held => held.text
  | boolean true => ['t', 'r', 'u', 'e']
  | boolean false => ['f', 'a', 'l', 's', 'e']
  | moment held => held.text
  | array [] => ['[', ']']
  | array (item :: items) => '[' :: write item ++ writeItems items
  | table [] => ['\x7b', '\x7d']
  | table ((key, value) :: entries) =>
      ['\x7b', ' '] ++ writeKey key ++ [' ', '=', ' '] ++ write value ++ writeEntries entries

def writeItems : List Toml → List Char
  | [] => [']']
  | item :: items => [',', ' '] ++ write item ++ writeItems items

def writeEntries : List (String × Toml) → List Char
  | [] => [' ', '\x7d']
  | (key, value) :: entries =>
      [',', ' '] ++ writeKey key ++ [' ', '=', ' '] ++ write value ++ writeEntries entries

end

def inline (value : Toml) : String :=
  String.ofList value.write

def writeLine (entry : String × Toml) : List Char :=
  writeKey entry.1 ++ [' ', '=', ' '] ++ entry.2.write ++ ['\n']

def document (entries : List (String × Toml)) : String :=
  String.ofList (entries.flatMap writeLine)

end LaunchConfig.Toml
