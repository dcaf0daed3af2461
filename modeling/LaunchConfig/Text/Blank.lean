/-!
Blank characters, trimming and splitting. A blank is a character with the Unicode property
White_Space; core's own class knows only the ASCII part of it.
-/
namespace LaunchConfig.Text

/-- The twenty-five characters with the Unicode property White_Space. -/
def isBlank (c : Char) : Bool :=
  let n := c.toNat
  (9 ≤ n && n ≤ 13) || n == 0x20 || n == 0x85 || n == 0xA0 || n == 0x1680
    || (0x2000 ≤ n && n ≤ 0x200A) || n == 0x2028 || n == 0x2029 || n == 0x202F
    || n == 0x205F || n == 0x3000

def trimChars (cs : List Char) : List Char :=
  ((cs.dropWhile isBlank).reverse.dropWhile isBlank).reverse

def trim (s : String) : String :=
  String.ofList (trimChars s.toList)

/-- No character of the text is visible. The empty text is blank. -/
def isBlankText (s : String) : Bool :=
  s.toList.all isBlank

/-- A text with its ASCII capitals made small. No character outside ASCII has one of the letters
of `none`, `null`, `true`, `false`, `yes`, `no`, `on`, `off` as its small form, so comparing with
these words needs no larger table. -/
def lowercase (s : String) : String :=
  String.ofList (s.toList.map Char.toLower)

/-- The parts between the separators, in order. There is one part more than there are
separators. -/
def parts (separator : Char) : List Char → List (List Char)
  | [] => [[]]
  | c :: rest =>
    if c = separator then [] :: parts separator rest
    else match parts separator rest with
      | [] => [[c]]
      | part :: others => (c :: part) :: others

def cut? (separator : Char) : List Char → Option (List Char × List Char)
  | [] => none
  | c :: rest =>
    if c = separator then some ([], rest)
    else (cut? separator rest).map fun (before, behind) => (c :: before, behind)

def dropStart? (start s : String) : Option String :=
  (start.toList.isPrefixOf? s.toList).map String.ofList

end LaunchConfig.Text
