import LaunchConfig.Json.Basic
import LaunchConfig.Text.Numeral

/-!
JSON as text, on one line or indented by two blanks for each level.
-/
namespace LaunchConfig

namespace Json

/-- How the parts of a value are set apart. -/
inductive Layout
  | compact
  | indented
  deriving DecidableEq, Repr

namespace Layout

/-- What stands before an item, or before the closing bracket, at the given depth. -/
def lineBreak (layout : Layout) (depth : Nat) : List Char :=
  match layout with
  | compact => []
  | indented => '\n' :: List.replicate (2 * depth) ' '

def colon : Layout → List Char
  | compact => [':']
  | indented => [':', ' ']

end Layout

def writeChar (c : Char) : List Char :=
  if c = '"' then ['\\', '"']
  else if c = '\\' then ['\\', '\\']
  else if c = '\x08' then ['\\', 'b']
  else if c = '\t' then ['\\', 't']
  else if c = '\n' then ['\\', 'n']
  else if c = '\x0c' then ['\\', 'f']
  else if c = '\r' then ['\\', 'r']
  else if c.toNat < 0x20 then
    ['\\', 'u', '0', '0', (c.toNat / 16).digitChar, (c.toNat % 16).digitChar]
  else [c]

def writeString (s : String) : List Char :=
  '"' :: s.toList.flatMap writeChar ++ ['"']

mutual

/-- The text of a value whose items stand at one more than the given depth. -/
def write (layout : Layout) (depth : Nat) : Json → List Char
  | null => ['n', 'u', 'l', 'l']
  | boolean true => ['t', 'r', 'u', 'e']
  | boolean false => ['f', 'a', 'l', 's', 'e']
  | integer held => Numeral.decimal held
  | real written => written.toList
  | string held => writeString held
  | array [] => ['[', ']']
  | array (item :: items) =>
      '[' :: layout.lineBreak (depth + 1) ++ write layout (depth + 1) item
        ++ writeItems layout depth items
  | object [] => ['\x7b', '\x7d']
  | object ((name, value) :: members) =>
      '\x7b' :: layout.lineBreak (depth + 1) ++ writeString name ++ layout.colon
        ++ write layout (depth + 1) value ++ writeMembers layout depth members

def writeItems (layout : Layout) (depth : Nat) : List Json → List Char
  | [] => layout.lineBreak depth ++ [']']
  | item :: items =>
      ',' :: layout.lineBreak (depth + 1) ++ write layout (depth + 1) item
        ++ writeItems layout depth items

def writeMembers (layout : Layout) (depth : Nat) : List (String × Json) → List Char
  | [] => layout.lineBreak depth ++ ['\x7d']
  | (name, value) :: members =>
      ',' :: layout.lineBreak (depth + 1) ++ writeString name ++ layout.colon
        ++ write layout (depth + 1) value ++ writeMembers layout depth members

end

def compact (value : Json) : String :=
  String.ofList (value.write .compact 0)

def indented (value : Json) : String :=
  String.ofList (value.write .indented 0)

end Json

end LaunchConfig
