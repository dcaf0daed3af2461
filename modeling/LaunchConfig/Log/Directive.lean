import LaunchConfig.Log.Event
import LaunchConfig.Log.Pattern
import LaunchConfig.Log.Threshold

/-!
Directives: each sets the least level for the events of a target and of the targets below it, or only
for those among them that have certain fields. A directive may also speak of a span or of the values
of fields; then it is no rule about events, because no event lies within a span.

A directive is read one character at a time, and its parts are cut out of its text by their offsets.
-/
namespace LaunchConfig

/-- One rule of a filter. The empty target is that of all events. -/
structure Directive where
  target : String
  fields : List String
  threshold : Threshold
  deriving DecidableEq, Repr

namespace Directive

def concerns (directive : Directive) (event : Event) : Bool :=
  (Text.dropStart? directive.target event.target).isSome
    && directive.fields.all event.fields.contains

/-- One rule is at least as specific as another: its target is longer, or else it asks for more
fields. Between rules with equally many fields, the order of the fields' names decides. -/
def outranks (directive other : Directive) : Bool :=
  let length := directive.target.utf8ByteSize
  let otherLength := other.target.utf8ByteSize
  let count := directive.fields.length
  let otherCount := other.fields.length
  otherLength < length || (otherLength = length && (otherCount < count
    || (otherCount = count && !decide (directive.fields < other.fields))))

def fallback : Directive := ⟨"", [], ⟨some .error⟩⟩

def isStart (c : Char) : Bool :=
  c = '-' || c = ':' || c = '_' || Text.isLetterOrNumber c

end Directive

structure FieldCondition where
  name : List Char
  hasValue : Bool
  deriving DecidableEq, Repr

namespace FieldCondition

def isMantissa (cs : List Char) : Bool :=
  let digits := cs.filter (· ≠ '.')
  digits.length + 1 ≥ cs.length && !digits.isEmpty && digits.all Char.isDigit

def isExponent (cs : List Char) : Bool :=
  let digits := match cs with
    | '+' :: rest | '-' :: rest => rest
    | rest => rest
  !digits.isEmpty && digits.all Char.isDigit

def isNumber (cs : List Char) : Bool :=
  let unsigned := match cs with
    | '+' :: rest | '-' :: rest => rest
    | rest => rest
  let isMark := fun c => c = 'e' || c = 'E'
  Text.lowercase (String.ofList unsigned) ∈ ["inf", "infinity", "nan"]
    || isMantissa (unsigned.takeWhile fun c => !isMark c)
      && match unsigned.dropWhile fun c => !isMark c with
        | [] => true
        | _ :: exponent => isExponent exponent

/-- The condition that a text writes: a name, and after an equals sign a number or a pattern. What
stands after another equals sign does not count. -/
def parse? (cs : List Char) : Option FieldCondition :=
  let name := cs.takeWhile (· ≠ '=')
  match cs.dropWhile (· ≠ '=') with
  | [] => if name.isEmpty then none else some ⟨name, false⟩
  | _ :: rest =>
    let value := rest.takeWhile (· ≠ '=')
    if isNumber value || Pattern.isPattern value then some ⟨name, true⟩ else none

end FieldCondition

/-- Where the reader of a directive stands: in a word that is a level or a target; in the name of a
span or in a field, since some offset; after a field; after the closing bracket; or in a level, since
some offset. -/
inductive DirectiveStage
  | word
  | span (since : Nat)
  | field (since : Nat)
  | fieldEnd
  | closed
  | level (since : Nat)
  deriving DecidableEq, Repr

structure DirectiveDraft where
  stage : DirectiveStage
  target : List Char
  inSpan : Bool
  field : Option FieldCondition
  deriving DecidableEq, Repr

namespace DirectiveDraft

def start (stage : DirectiveStage) : DirectiveDraft := ⟨stage, [], false, none⟩

def dropBytes : Nat → List Char → Option (List Char)
  | 0, cs => some cs
  | _ + 1, [] => none
  | count + 1, c :: rest =>
    if c.utf8Size ≤ count + 1 then dropBytes (count + 1 - c.utf8Size) rest else none

def takeBytes : Nat → List Char → Option (List Char)
  | 0, _ => some []
  | _ + 1, [] => none
  | count + 1, c :: rest =>
    if c.utf8Size ≤ count + 1 then (takeBytes (count + 1 - c.utf8Size) rest).map (c :: ·) else none

def slice? (text : List Char) (low high : Nat) : Option (List Char) :=
  (dropBytes low text).bind (takeBytes (high - low))

/-- The draft after one more character, which stands at an offset. The parts are taken from the given
text. -/
def step (text : List Char) (draft : DirectiveDraft) (offset : Nat) (c : Char) :
    Option DirectiveDraft :=
  match draft.stage with
  | .word =>
    if c = '=' then
      (slice? text 0 offset).map fun target =>
        { draft with stage := .level (offset + 1), target := target }
    else if c = '[' then
      (slice? text 0 offset).map fun target =>
        { draft with stage := .span (offset + 1), target := target }
    else some draft
  | .span since =>
    if c = ']' then
      (slice? text since offset).map fun _ => { draft with stage := .closed, inSpan := true }
    else if c = '\x7b' then
      (slice? text since offset).map fun name =>
        { draft with stage := .field (offset + 1), inSpan := !name.isEmpty }
    else some draft
  | .field since =>
    if c = '\x7d' then
      (slice? text since offset).bind fun written =>
        (FieldCondition.parse? written).map fun field =>
          { draft with stage := .fieldEnd, field := some field }
    else some draft
  | .fieldEnd => if c = ']' then some { draft with stage := .closed } else none
  | .closed => if c = '=' then some { draft with stage := .level (offset + 1) } else none
  | .level _ => some draft

def run (text : List Char) (draft : DirectiveDraft) (offset : Nat) :
    List Char → Option DirectiveDraft
  | [] => some draft
  | c :: rest =>
    (draft.step text offset c).bind fun next => run text next (offset + c.utf8Size) rest

def rules (draft : DirectiveDraft) (threshold : Threshold) : List Directive :=
  let target := String.ofList draft.target
  if draft.inSpan then []
  else match draft.field with
    | none => [⟨target, [], threshold⟩]
    | some field => if field.hasValue then [] else [⟨target, [String.ofList field.name], threshold⟩]

/-- The rule of a finished draft. A word that is no level is a target. Everything is logged where no
level is written. -/
def finish (text : List Char) (draft : DirectiveDraft) : Option (List Directive) :=
  match draft.stage with
  | .word =>
    match Threshold.ofChars? text with
    | some threshold => some [⟨"", [], threshold⟩]
    | none => some [⟨String.ofList text, [], ⟨some .trace⟩⟩]
  | .level since =>
    (dropBytes since text).bind fun written =>
      if written.isEmpty then some (draft.rules ⟨some .trace⟩)
      else (Threshold.ofChars? written).map draft.rules
  | .closed => some (draft.rules ⟨some .trace⟩)
  | _ => none

end DirectiveDraft

/-- The rule that a text writes, if it is about events. The offsets of the parts are found in the
text without the blanks around it, but the parts are taken from the text as it is; blanks in front
displace them. -/
def Directive.parse? (text : List Char) : Option (List Directive) :=
  let draft := match Text.trimChars text with
    | [] => none
    | c :: rest =>
      if c = '[' then (DirectiveDraft.start (.span 1)).run text 1 rest
      else if isStart c then (DirectiveDraft.start .word).run text c.utf8Size rest
      else none
  draft.bind (DirectiveDraft.finish text)

end LaunchConfig
