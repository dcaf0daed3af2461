import LaunchConfig.Text.Hex
import LaunchConfig.Toml.Basic

/-!
Quoted TOML texts. Each of the readers looks at one character at a time; a block has more states
than a line, because up to two quotes in a row belong to its text, and because a backslash at the
end of a line joins the line to the next visible character. Line breaks belong to the text of a
block as they are written, with or without a carriage return.
-/
namespace LaunchConfig.Toml

def isSpace (c : Char) : Bool :=
  c = ' ' || c = '\t'

/-- Characters that stand for themselves in comments and texts. -/
def isPlain (c : Char) : Bool :=
  c = '\t' || (0x20 ≤ c.toNat && c.toNat != 0x7F)

def letter? (c : Char) : Option Char :=
  if c = '"' then some '"'
  else if c = '\\' then some '\\'
  else if c = 'b' then some '\x08'
  else if c = 't' then some '\t'
  else if c = 'n' then some '\n'
  else if c = 'f' then some '\x0c'
  else if c = 'r' then some '\r'
  else if c = 'e' then some '\x1b'
  else none

inductive LineState
  | plain
  | escape
  | digits (left value : Nat)
  deriving DecidableEq, Repr

def LineState.step (state : LineState) (c : Char) : Option (LineState × List Char) :=
  match state with
  | plain =>
    if c = '\\' then some (escape, [])
    else if isPlain c then some (plain, [c])
    else none
  | escape =>
    if c = 'x' then some (digits 1 0, [])
    else if c = 'u' then some (digits 3 0, [])
    else if c = 'U' then some (digits 7 0, [])
    else (letter? c).map fun held => (plain, [held])
  | digits left value =>
    (Text.hexValue? c).bind fun digit =>
      match left with
      | 0 => (Text.scalar? (value * 16 + digit)).map fun held => (plain, [held])
      | left + 1 => some (digits left (value * 16 + digit), [])

def readLine (state : LineState) : List Char → Option (List Char × List Char)
  | [] => none
  | c :: rest =>
    if state = .plain ∧ c = '"' then some ([], rest)
    else
      (state.step c).bind fun (next, complete) =>
        (readLine next rest).map fun (held, behind) => (complete ++ held, behind)

def readLiteral : List Char → Option (List Char × List Char)
  | [] => none
  | c :: rest =>
    if c = '\'' then some ([], rest)
    else if isPlain c then (readLiteral rest).map fun (held, behind) => (c :: held, behind)
    else none

/-- Where the reader of a block stands: in plain text after some quotes in a row; within a line
break of two characters; after a backslash; among the digits of an escape; between a backslash and
the end of its line; or in the gap that such a backslash skips. -/
inductive BlockState
  | plain (quotes : Nat)
  | lineBreak
  | escape
  | digits (left value : Nat)
  | lineEnd
  | gapBreak
  | gap
  deriving DecidableEq, Repr

/-- What a character does to a block: the text goes on, it has ended before or with the character,
or the character may not stand there. -/
inductive BlockStep
  | more (state : BlockState) (complete : List Char)
  | ended (complete : List Char) (withCharacter : Bool)
  | refused
  deriving DecidableEq, Repr

namespace BlockState

/-- A character in plain text, after some quotes in a row. The third quote ends the text, unless it
is followed by more: up to two of a longer row belong to the text. -/
def plainStep (quote : Char) (quotes : Nat) (c : Char) : BlockStep :=
  if c = quote then
    if quotes = 4 then .ended (List.replicate 2 quote) true else .more (plain (quotes + 1)) []
  else if 3 ≤ quotes then .ended (List.replicate (quotes - 3) quote) false
  else
    let pending := List.replicate quotes quote
    if c = '\\' ∧ quote = '"' then .more escape pending
    else if c = '\r' then .more lineBreak pending
    else if c = '\n' ∨ isPlain c then .more (plain 0) (pending ++ [c])
    else .refused

def step (quote : Char) (state : BlockState) (c : Char) : BlockStep :=
  match state with
  | plain quotes => plainStep quote quotes c
  | lineBreak => if c = '\n' then .more (plain 0) ['\r', '\n'] else .refused
  | escape =>
    if c = 'x' then .more (digits 1 0) []
    else if c = 'u' then .more (digits 3 0) []
    else if c = 'U' then .more (digits 7 0) []
    else if isSpace c then .more lineEnd []
    else if c = '\n' then .more gap []
    else if c = '\r' then .more gapBreak []
    else match letter? c with
      | some held => .more (plain 0) [held]
      | none => .refused
  | digits left value =>
    match Text.hexValue? c with
    | none => .refused
    | some digit =>
      match left with
      | 0 =>
        match Text.scalar? (value * 16 + digit) with
        | some held => .more (plain 0) [held]
        | none => .refused
      | left + 1 => .more (digits left (value * 16 + digit)) []
  | lineEnd =>
    if isSpace c then .more lineEnd []
    else if c = '\n' then .more gap []
    else if c = '\r' then .more gapBreak []
    else .refused
  | gapBreak => if c = '\n' then .more gap [] else .refused
  | gap =>
    if isSpace c ∨ c = '\n' then .more gap []
    else if c = '\r' then .more gapBreak []
    else plainStep quote 0 c

end BlockState

def readBlock (quote : Char) (state : BlockState) : List Char → Option (List Char × List Char)
  | [] =>
    match state with
    | .plain quotes => if 3 ≤ quotes then some (List.replicate (quotes - 3) quote, []) else none
    | _ => none
  | c :: rest =>
    match state.step quote c with
    | .more next complete =>
      (readBlock quote next rest).map fun (held, behind) => (complete ++ held, behind)
    | .ended complete withCharacter => some (complete, if withCharacter then rest else c :: rest)
    | .refused => none

def dropLineBreak : List Char → List Char
  | '\n' :: rest => rest
  | '\r' :: '\n' :: rest => rest
  | rest => rest

end LaunchConfig.Toml
