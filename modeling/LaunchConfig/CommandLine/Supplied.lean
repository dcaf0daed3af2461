import LaunchConfig.CommandLine.Argument
import LaunchConfig.Text.Blank

/-!
Reading the words of a command line, scope by scope. The value of an option is looked at only when
the next option begins or the scope ends, so an unknown word in between is reported first.
-/
namespace LaunchConfig.CommandLine

/-- Why a command line gives no command to run. -/
inductive UsageFault
  | help
  | version
  | helpOnMissing
  | missingCommand
  | missingArgument
  | unknownArgument
  | unknownCommand
  | invalidValue
  | tooManyValues
  | conflict
  deriving DecidableEq, Repr

/-- What has been read of a scope: arguments with their values, and an option whose value has not
been looked at yet, or not been given yet. -/
structure Supplied where
  values : List (Argument × String)
  pending : Option (Argument × Option String)
  deriving DecidableEq, Repr

namespace Supplied

def nothing : Supplied := ⟨[], none⟩

def has (supplied : Supplied) (argument : Argument) : Bool :=
  supplied.values.any fun given => given.1 = argument

def all (supplied : Supplied) (argument : Argument) : List String :=
  (supplied.values.filter fun given => given.1 = argument).map Prod.snd

def awaits (supplied : Supplied) : Option Argument :=
  match supplied.pending with
  | some (argument, none) => some argument
  | _ => none

def settle (supplied : Supplied) (argument : Argument) (value : String) :
    Except UsageFault Supplied :=
  if !argument.repeats && supplied.has argument then .error .conflict
  else if argument.accepts value then .ok ⟨supplied.values ++ [(argument, value)], none⟩
  else .error .invalidValue

/-- Looks at the value of the pending option. -/
def resolve (supplied : Supplied) : Except UsageFault Supplied :=
  match supplied.pending with
  | none => .ok supplied
  | some (_, none) => .error .invalidValue
  | some (argument, some value) => settle ⟨supplied.values, none⟩ argument value

/-- Begins an option that takes a value, or takes the value that is attached to it. -/
def option (supplied : Supplied) (argument : Argument) (attached : Option String) :
    Except UsageFault Supplied := do
  let resolved ← supplied.resolve
  match attached with
  | some value => resolved.settle argument value
  | none => return ⟨resolved.values, some (argument, none)⟩

def flag (supplied : Supplied) (argument : Argument) : Except UsageFault Supplied := do
  let resolved ← supplied.resolve
  match argument with
  | .help => throw .help
  | .version => throw .version
  | _ => resolved.settle argument ""

def long (scope : Scope) (supplied : Supplied) (cs : List Char) : Except UsageFault Supplied :=
  let (name, attached) := match Text.cut? '=' cs with
    | some (name, value) => (name, some (String.ofList value))
    | none => (cs, none)
  match scope.long? (String.ofList name) with
  | none => .error .unknownArgument
  | some argument =>
    if argument.takesValue then supplied.option argument attached
    else if attached.isSome then .error .tooManyValues
    else supplied.flag argument

/-- The value attached to a letter, without an equals sign between them. -/
def attachedToLetter : List Char → Option String
  | [] => none
  | '=' :: value => some (String.ofList value)
  | value => some (String.ofList value)

/-- Takes the letters after one dash. The rest of the word is the value of the first option that
takes one. -/
def letters (scope : Scope) (supplied : Supplied) : List Char → Except UsageFault Supplied
  | [] => .ok supplied
  | letter :: rest =>
    match scope.short? letter with
    | none => .error .unknownArgument
    | some argument =>
      if argument.takesValue then supplied.option argument (attachedToLetter rest)
      else do
        let next ← supplied.flag argument
        letters scope next rest

def place (scope : Scope) (supplied : Supplied) (trailing : Bool) (word : String) :
    Except UsageFault Supplied :=
  match scope.positional? with
  | some argument =>
    if supplied.has argument then .error .unknownArgument
    else do
      let resolved ← supplied.resolve
      resolved.settle argument word
  | none =>
    if scope ≠ .top then .error .unknownArgument
    else if trailing && (word = "help" || (Scope.command? word).isSome) then .error .unknownArgument
    else .error .unknownCommand

def take (scope : Scope) (supplied : Supplied) (word : String) : Except UsageFault Supplied :=
  match word.toList, supplied.awaits with
  | '-' :: '-' :: cs, _ => supplied.long scope cs
  | '-' :: letter :: cs, _ => supplied.letters scope (letter :: cs)
  | _, some argument => .ok ⟨supplied.values, some (argument, some word)⟩
  | _, none => supplied.place scope false word

def helpAbout (words : List String) : UsageFault :=
  match words with
  | [] => .help
  | [word] => if word = "help" || (Scope.command? word).isSome then .help else .unknownCommand
  | _ => .unknownCommand

/-- Reads the words of a scope up to its end, or up to a command, whose words are left. After two
dashes, all words count by their place. -/
def read (scope : Scope) (supplied : Supplied) (trailing : Bool) :
    List String → Except UsageFault (Supplied × Option (Scope × List String))
  | [] => .ok (supplied, none)
  | word :: rest =>
    if trailing then do
      let next ← supplied.place scope true word
      read scope next true rest
    else
      let free := scope = .top && supplied.awaits.isNone
      match if free then Scope.command? word else none with
      | some command => .ok (supplied, some (command, rest))
      | none =>
        if free && word = "help" then .error (helpAbout rest)
        else if word = "--" then read scope supplied true rest
        else do
          let next ← supplied.take scope word
          read scope next false rest

def ofCommand (scope : Scope) (words : List String) : Except UsageFault Supplied := do
  let (supplied, _) ← nothing.read scope false words
  let resolved ← supplied.resolve
  match scope.positional? with
  | some argument => if resolved.has argument then return resolved else throw .missingArgument
  | none => return resolved

end Supplied

end LaunchConfig.CommandLine
