import LaunchConfig.Toml.Assembly
import LaunchConfig.Toml.Quoted
import LaunchConfig.Toml.Scalar

/-!
Reading TOML text, as statements first and as a table then. Values nest up to a fixed level, and
the readers of lists of parts are given as many steps as there are characters, or one more where a
list may be empty.
-/
namespace LaunchConfig.Toml

/-- What follows the end of a line: blanks, a comment, and a line break or the end of the text. -/
def lineEnd? (cs : List Char) : Option (List Char) :=
  let rest := match cs.dropWhile isSpace with
    | '#' :: comment => comment.dropWhile isPlain
    | rest => rest
  match rest with
  | [] => some []
  | '\n' :: rest => some rest
  | '\r' :: '\n' :: rest => some rest
  | _ => none

def skipGaps (inComment : Bool) : List Char → Option (List Char)
  | [] => some []
  | c :: rest =>
    if c = '\n' then skipGaps false rest
    else if c = '\r' then
      match rest with
      | '\n' :: _ => skipGaps inComment rest
      | _ => none
    else if inComment then if isPlain c then skipGaps true rest else none
    else if c = '#' then skipGaps true rest
    else if isSpace c then skipGaps false rest
    else some (c :: rest)

def readKey : List Char → Option (String × List Char)
  | '"' :: rest =>
    (readLine .plain rest).map fun (held, behind) => (String.ofList held, behind)
  | '\'' :: rest =>
    (readLiteral rest).map fun (held, behind) => (String.ofList held, behind)
  | cs =>
    let bare := cs.takeWhile fun c => c.isAlphanum || c = '_' || c = '-'
    if bare.isEmpty then none else some (String.ofList bare, cs.drop bare.length)

/-- A dotted key with at most the given number of parts, and what follows it and the blanks after
it. -/
def readKeys : Nat → List Char → Option (List String × List Char)
  | 0, _ => none
  | parts + 1, cs =>
    (readKey cs).bind fun (key, rest) =>
      match rest.dropWhile isSpace with
      | '.' :: rest =>
        (readKeys parts (rest.dropWhile isSpace)).map fun (path, behind) => (key :: path, behind)
      | rest => some ([key], rest)

def maxParts : Nat := 80

def readPath (cs : List Char) : Option (List String × List Char) :=
  readKeys maxParts cs

def readPlain (cs : List Char) : Option (Toml × List Char) :=
  match cs with
  | '"' :: '"' :: '"' :: rest =>
    (readBlock '"' (.plain 0) (dropLineBreak rest)).map fun (held, behind) =>
      (.text (String.ofList held), behind)
  | '"' :: rest =>
    (readLine .plain rest).map fun (held, behind) => (.text (String.ofList held), behind)
  | '\'' :: '\'' :: '\'' :: rest =>
    (readBlock '\'' (.plain 0) (dropLineBreak rest)).map fun (held, behind) =>
      (.text (String.ofList held), behind)
  | '\'' :: rest =>
    (readLiteral rest).map fun (held, behind) => (.text (String.ofList held), behind)
  | cs => readScalar cs

def readItems (readItem : List Char → Option (Toml × List Char)) :
    Nat → List Char → Option (List Toml × List Char)
  | 0, _ => none
  | steps + 1, cs =>
    match cs with
    | ']' :: rest => some ([], rest)
    | cs =>
      (readItem cs).bind fun (item, rest) =>
        (skipGaps false rest).bind fun rest =>
          match rest with
          | ',' :: rest =>
            (skipGaps false rest).bind fun rest =>
              (readItems readItem steps rest).map fun (items, behind) => (item :: items, behind)
          | ']' :: rest => some ([item], rest)
          | _ => none

def readMember (readItem : List Char → Option (Toml × List Char)) (cs : List Char) :
    Option ((List String × Toml) × List Char) :=
  match readPath cs with
  | some (path, '=' :: rest) =>
    (readItem (rest.dropWhile isSpace)).map fun (held, rest) => ((path, held), rest)
  | _ => none

/-- The members between braces up to their end, and what follows the closing brace. -/
def readMembers (readItem : List Char → Option (Toml × List Char)) :
    Nat → List Char → Option (List (List String × Toml) × List Char)
  | 0, _ => none
  | steps + 1, cs =>
    match cs with
    | '\x7d' :: rest => some ([], rest)
    | cs =>
      (readMember readItem cs).bind fun (member, rest) =>
        (skipGaps false rest).bind fun rest =>
          match rest with
          | ',' :: rest =>
            (skipGaps false rest).bind fun rest =>
              (readMembers readItem steps rest).map fun (members, behind) =>
                (member :: members, behind)
          | '\x7d' :: rest => some ([member], rest)
          | _ => none

def readArray (readItem : List Char → Option (Toml × List Char)) (cs : List Char) :
    Option (Toml × List Char) :=
  (skipGaps false cs).bind fun rest =>
    (readItems readItem (rest.length + 1) rest).map fun (items, behind) => (.array items, behind)

def readTable (readItem : List Char → Option (Toml × List Char)) (cs : List Char) :
    Option (Toml × List Char) :=
  (skipGaps false cs).bind fun rest =>
    (readMembers readItem (rest.length + 1) rest).bind fun (members, behind) =>
      (inlineTable? members).map fun held => (held, behind)

/-- A value with at most the given number of brackets around its innermost part, and what follows
it. -/
def readValue : Nat → List Char → Option (Toml × List Char)
  | 0, cs => readPlain cs
  | level + 1, cs =>
    match cs with
    | '[' :: rest => readArray (readValue level) rest
    | '\x7b' :: rest => readTable (readValue level) rest
    | cs => readPlain cs

def maxLevel : Nat := 80

def readStatement (cs : List Char) : Option (Statement × List Char) :=
  match cs with
  | '[' :: '[' :: rest =>
    match readPath (rest.dropWhile isSpace) with
    | some (path, ']' :: ']' :: behind) => some (.item path, behind)
    | _ => none
  | '[' :: rest =>
    match readPath (rest.dropWhile isSpace) with
    | some (path, ']' :: behind) => some (.table path, behind)
    | _ => none
  | cs =>
    match readPath cs with
    | some (path, '=' :: rest) =>
      (readValue maxLevel (rest.dropWhile isSpace)).map fun (held, behind) =>
        (.assign path held, behind)
    | _ => none

def readStatements : Nat → List Char → Option (List Statement)
  | 0, _ => none
  | _ + 1, [] => some []
  | steps + 1, cs =>
    match lineEnd? cs with
    | some rest => readStatements steps rest
    | none =>
      (readStatement (cs.dropWhile isSpace)).bind fun (statement, rest) =>
        (lineEnd? rest).bind fun rest =>
          (readStatements steps rest).map fun statements => statement :: statements

/-- The text without a byte-order mark at its start. -/
def dropMark : List Char → List Char
  | '\ufeff' :: rest => rest
  | rest => rest

def parse? (source : String) : Option (KeyMap Toml) :=
  let cs := dropMark source.toList
  (readStatements (cs.length + 1) cs).bind assemble?

end LaunchConfig.Toml
