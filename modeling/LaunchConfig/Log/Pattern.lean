import LaunchConfig.Text.Blank
import LaunchConfig.Text.Hex
import LaunchConfig.Text.Letter

/-!
Which texts are regular expressions that a field's value may be compared with. A pattern is read in
one pass, with the groups and brackets that are open on a list. Characters are known by their code
points alone: without tables of their properties, named classes, word edges and the comparison of
small with capital letters exist only for patterns that keep to ASCII.

Counts in braces are no part of the language, since a directive ends a value at a closing brace.
-/
namespace LaunchConfig.Pattern

/-- How the characters of a pattern count: whether small and capital letters are the same, whether
the pattern keeps to ASCII, and whether blanks and comments are skipped. -/
structure Mode where
  anyCase : Bool
  ascii : Bool
  spaced : Bool
  deriving DecidableEq, Repr

def dropSpacing (inComment : Bool) : List Char → List Char
  | [] => []
  | c :: rest =>
    if inComment then dropSpacing (c ≠ '\n') rest
    else if Text.isBlank c then dropSpacing false rest
    else if c = '#' then dropSpacing true rest
    else c :: rest

namespace Mode

def plain : Mode := ⟨false, false, false⟩

def skip (mode : Mode) (cs : List Char) : List Char :=
  if mode.spaced then dropSpacing false cs else cs

def set (mode : Mode) (setting : Char) (on : Bool) : Mode :=
  if setting = 'i' then { mode with anyCase := on }
  else if setting = 'u' then { mode with ascii := !on }
  else if setting = 'x' then { mode with spaced := on }
  else mode

def compares (mode : Mode) : Bool :=
  mode.ascii || !mode.anyCase

/-- The character after a dash in brackets. Where blanks are skipped, a comment's first word is
taken for what follows the dash. -/
def afterDash? (mode : Mode) (cs : List Char) : Option Char :=
  if mode.spaced then
    let next := match cs.dropWhile Text.isBlank with
      | '#' :: rest => rest.dropWhile Text.isBlank
      | rest => rest
    next.head?.or cs.head?
  else cs.head?

end Mode

/-- What an escape or a single character stands for: a character, which may be written as a byte; a
named class, which may be negated; or a place in the text, which may be the edge of a word. -/
inductive Atom
  | character (c : Char) (isByte : Bool)
  | named (negated : Bool)
  | place (isWordEdge : Bool)
  deriving DecidableEq, Repr

namespace Atom

def standsAlone (mode : Mode) : Atom → Bool
  | character c isByte => mode.compares && !(mode.ascii && isByte && 0x80 ≤ c.toNat)
  | named negated => mode.ascii && !negated
  | place isWordEdge => mode.ascii || !isWordEdge

def standsInside (mode : Mode) : Atom → Bool
  | character c _ => mode.compares && !(mode.ascii && 0x80 ≤ c.toNat)
  | named negated => mode.ascii && !negated
  | place _ => false

end Atom

def readHex (mode : Mode) : Nat → Nat → List Char → Option (Nat × List Char)
  | 0, value, cs => some (value, cs)
  | left + 1, value, cs =>
    match mode.skip cs with
    | [] => none
    | c :: rest =>
      (Text.hexValue? c).bind fun digit => readHex mode left (value * 16 + digit) rest

def hexWidth? (c : Char) : Option Nat :=
  if c = 'x' then some 2 else if c = 'u' then some 4 else if c = 'U' then some 8 else none

def letterAtom? (c : Char) : Option Atom :=
  if c = 'a' then some (.character '\x07' false)
  else if c = 'f' then some (.character '\x0c' false)
  else if c = 't' then some (.character '\t' false)
  else if c = 'n' then some (.character '\n' false)
  else if c = 'r' then some (.character '\r' false)
  else if c = 'v' then some (.character '\x0b' false)
  else if c = 'd' ∨ c = 's' ∨ c = 'w' then some (.named false)
  else if c = 'D' ∨ c = 'S' ∨ c = 'W' then some (.named true)
  else if c = 'A' ∨ c = 'z' then some (.place false)
  else if c = 'b' ∨ c = 'B' ∨ c = '<' ∨ c = '>' then some (.place true)
  else none

/-- An escape after its backslash, and what follows it. Any mark of ASCII may be escaped; digits and
other letters may not. -/
def readEscape (mode : Mode) : List Char → Option (Atom × List Char)
  | [] => none
  | c :: rest =>
    match hexWidth? c with
    | some width =>
      (readHex mode width 0 rest).bind fun (value, rest) =>
        (Text.scalar? value).map fun held => (.character held (c = 'x'), rest)
    | none =>
      match letterAtom? c with
      | some atom => some (atom, rest)
      | none =>
        if c.toNat < 0x80 ∧ ¬ c.isAlphanum then some (.character c false, rest) else none

/-- The parts between brackets that have been read: how deep the operands of set operations nest, and
the number and depth of the parts after the last operation. -/
structure Bracket where
  operands : Option Nat
  count : Nat
  depth : Nat
  deriving DecidableEq, Repr

namespace Bracket

def start (count : Nat) : Bracket := ⟨none, count, 0⟩

def add (bracket : Bracket) (depth : Nat) : Bracket :=
  { bracket with count := bracket.count + 1, depth := max bracket.depth depth }

def operandDepth (bracket : Bracket) : Nat :=
  let last := if bracket.count ≤ 1 then bracket.depth else bracket.depth + 1
  match bracket.operands with
  | none => last
  | some depth => max depth last + 1

def operate (bracket : Bracket) : Bracket :=
  ⟨some bracket.operandDepth, 0, 0⟩

def close (bracket : Bracket) : Nat :=
  bracket.operandDepth + 1

end Bracket

def readDashes (mode : Mode) : Nat → Nat → List Char → Nat × List Char
  | 0, count, cs => (count, cs)
  | steps + 1, count, cs =>
    match cs with
    | '-' :: rest => readDashes mode steps (count + 1) (mode.skip rest)
    | cs => (count, cs)

/-- The start of brackets after the opening one, and what follows it. A closing bracket there stands
for itself. Characters other than those of a set have no end in ASCII. -/
def openBracket (mode : Mode) (inner : Bool) (cs : List Char) : Option (Bracket × List Char) :=
  let cs := mode.skip cs
  let negated := cs.head? = some '^'
  let cs := if negated then mode.skip cs.tail else cs
  let (dashes, cs) := readDashes mode cs.length 0 cs
  let (count, cs) := match dashes, cs with
    | 0, ']' :: rest => (1, mode.skip rest)
    | dashes, cs => (dashes, cs)
  if cs.isEmpty || negated && (mode.ascii || inner && mode.anyCase) || 0 < count && !mode.compares then
    none
  else some (.start count, cs)

def classNames : List String :=
  ["alnum", "alpha", "ascii", "blank", "cntrl", "digit", "graph", "lower", "print", "punct", "space",
    "upper", "word", "xdigit"]

def className? : List Char → Option (Bool × List Char)
  | ':' :: rest =>
    let negated := rest.head? = some '^'
    let rest := if negated then rest.tail else rest
    match rest.dropWhile (· ≠ ':') with
    | ':' :: ']' :: behind =>
      if String.ofList (rest.takeWhile (· ≠ ':')) ∈ classNames then some (negated, behind) else none
    | _ => none
  | _ => none

/-- One end of a range in brackets, or a part that is no range, and what follows it. -/
def readEnd (mode : Mode) : List Char → Option (Atom × List Char)
  | [] => none
  | '\\' :: rest => readEscape mode rest
  | c :: rest => some (.character c false, rest)

/-- A character, a range or a named class in brackets. What follows it is left. A range has
characters for its ends, in order. -/
def readRange (mode : Mode) (cs : List Char) : Option (List Char) :=
  (readEnd mode cs).bind fun (low, rest) =>
    let rest := mode.skip rest
    let next := rest.tail
    if rest.isEmpty || !low.standsInside mode then none
    else if rest.head? ≠ some '-' ∨ mode.afterDash? next = some ']'
        ∨ mode.afterDash? next = some '-' then
      some rest
    else
      (readEnd mode (mode.skip next)).bind fun (high, rest) =>
        match low, high with
        | .character first _, .character last _ =>
          if high.standsInside mode ∧ first ≤ last then some rest else none
        | _, _ => none

/-- The brackets that are open, the innermost first, up to the end of the outermost: how deep they
nest, and what follows them. -/
def readBrackets (mode : Mode) : Nat → Bracket → List Bracket → List Char →
    Option (Nat × List Char)
  | 0, _, _, _ => none
  | steps + 1, bracket, outer, cs =>
    match mode.skip cs with
    | '[' :: rest =>
      match className? rest with
      | some (negated, behind) =>
        if mode.compares && !(mode.ascii && negated) then
          readBrackets mode steps (bracket.add 0) outer behind
        else none
      | none =>
        (openBracket mode true rest).bind fun (opened, behind) =>
          readBrackets mode steps opened (bracket :: outer) behind
    | ']' :: rest =>
      match outer with
      | [] => some (bracket.close, rest)
      | held :: outer => readBrackets mode steps (held.add bracket.close) outer rest
    | '&' :: '&' :: rest | '-' :: '-' :: rest | '~' :: '~' :: rest =>
      readBrackets mode steps bracket.operate outer rest
    | cs => (readRange mode cs).bind fun rest => readBrackets mode steps (bracket.add 0) outer rest

def readClass (mode : Mode) (cs : List Char) : Option (Nat × List Char) :=
  (openBracket mode false cs).bind fun (opened, rest) =>
    readBrackets mode (rest.length + 1) opened [] rest

/-- A part of a pattern: a setting for the parts after it, or something that can be repeated, and how
deep that nests. -/
inductive Part
  | setting
  | operand (depth : Nat)
  deriving DecidableEq, Repr

def Part.depth : Part → Nat
  | setting => 0
  | operand depth => depth

/-- The parts of one alternative, the last first. -/
abbrev Sequence := List Part

def Sequence.depth (parts : Sequence) : Nat :=
  let deepest := parts.foldl (fun depth part => max depth part.depth) 0
  if parts.length ≤ 1 then deepest else deepest + 1

def Sequence.repeated? : Sequence → Option Sequence
  | .operand depth :: rest => some (.operand (depth + 1) :: rest)
  | _ => none

/-- What stands before an open group, or what the group itself has so far: the mode, the depth of the
alternatives that are complete, and the alternative that is not. -/
structure Level where
  mode : Mode
  complete : Option Nat
  parts : Sequence
  deriving DecidableEq, Repr

namespace Level

def start (mode : Mode) : Level := ⟨mode, none, []⟩

def add (level : Level) (part : Part) : Level :=
  { level with parts := part :: level.parts }

def alternate (level : Level) : Level :=
  { level with complete := some (max (level.complete.getD 0) level.parts.depth), parts := [] }

def depth (level : Level) : Nat :=
  match level.complete with
  | none => level.parts.depth
  | some depth => max depth level.parts.depth + 1

end Level

/-- Settings after a question mark, up to a colon or a closing parenthesis: the mode that they make,
the settings, the character that ends them, and what follows it. Each setting is named once, and a
dash, which turns off the settings after it, is not the last one. -/
def readSettings (mode : Mode) (named : List Char) (on : Bool) :
    List Char → Option (Mode × List Char × Char × List Char)
  | [] => none
  | c :: rest =>
    if c = ':' ∨ c = ')' then
      if named.head? = some '-' then none else some (mode, named, c, rest)
    else if c ∈ named then none
    else if c = '-' then readSettings mode (c :: named) false rest
    else if c ∈ ['i', 'm', 's', 'U', 'u', 'R', 'x'] then
      readSettings (mode.set c on) (c :: named) on rest
    else none

def readName (cs : List Char) : Option (List Char × List Char) :=
  let name := cs.takeWhile (· ≠ '>')
  match name, cs.dropWhile (· ≠ '>') with
  | first :: others, _ :: behind =>
    if (first = '_' || Text.isLetter first) && others.all fun c =>
        c = '_' || c = '.' || c = '[' || c = ']' || Text.isLetterOrNumber c then
      some (name, behind)
    else none
  | _, _ => none

inductive Opening
  | group (mode : Mode) (name : Option (List Char))
  | settings (mode : Mode)
  deriving DecidableEq, Repr

/-- What an opening parenthesis starts, and what follows. Groups do not look around. -/
def readOpening (mode : Mode) (cs : List Char) : Option (Opening × List Char) :=
  match mode.skip cs with
  | '?' :: '<' :: '!' :: _ => none
  | '?' :: 'P' :: '<' :: rest | '?' :: '<' :: rest =>
    (readName rest).map fun (name, behind) => (.group mode (some name), behind)
  | '?' :: rest =>
    (readSettings mode [] true rest).bind fun (changed, named, ending, behind) =>
      if ending = ':' then some (.group changed none, behind)
      else if named.isEmpty then none
      else some (.settings changed, behind)
  | rest => some (.group mode none, rest)

def readPart (mode : Mode) : List Char → Option (Part × List Char)
  | [] => none
  | '[' :: rest => (readClass mode rest).map fun (depth, behind) => (.operand depth, behind)
  | '\\' :: rest =>
    (readEscape mode rest).bind fun (atom, behind) =>
      if atom.standsAlone mode then some (.operand 0, behind) else none
  | c :: rest =>
    let stands :=
      if c = '.' then !mode.ascii
      else if c = '^' || c = '$' then true
      else c ≠ '\x7b' && (Atom.character c false).standsAlone mode
    if stands then some (.operand 0, rest) else none

/-- How deep a pattern nests, read on from some levels, the innermost first. No two groups have one
name. -/
def readFrom : Nat → Level → List Level → List (List Char) → List Char → Option Nat
  | 0, _, _, _, _ => none
  | steps + 1, level, outer, names, cs =>
    match level.mode.skip cs with
    | [] => if outer.isEmpty then some level.depth else none
    | '(' :: rest =>
      (readOpening level.mode rest).bind fun (opening, behind) =>
        match opening with
        | .settings mode =>
          readFrom steps { level.add .setting with mode := mode } outer names behind
        | .group mode none => readFrom steps (.start mode) (level :: outer) names behind
        | .group mode (some name) =>
          if name ∈ names then none
          else readFrom steps (.start mode) (level :: outer) (name :: names) behind
    | ')' :: rest =>
      match outer with
      | [] => none
      | held :: outer => readFrom steps (held.add (.operand (level.depth + 1))) outer names rest
    | '|' :: rest => readFrom steps level.alternate outer names rest
    | c :: rest =>
      if c = '?' ∨ c = '*' ∨ c = '+' then
        level.parts.repeated?.bind fun parts =>
          let rest := match rest with
            | '?' :: behind => behind
            | rest => rest
          readFrom steps { level with parts := parts } outer names rest
      else
        (readPart level.mode (c :: rest)).bind fun (part, behind) =>
          readFrom steps (level.add part) outer names behind

def maxDepth : Nat := 250

def isPattern (cs : List Char) : Bool :=
  (readFrom (cs.length + 1) (.start .plain) [] [] cs).any (· ≤ maxDepth)

end LaunchConfig.Pattern
