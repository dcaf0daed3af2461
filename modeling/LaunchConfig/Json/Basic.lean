/-!
JSON values. An object lists its members in the order in which they are written. A number is an
integer, or it is written with a fraction, an exponent or as a negative zero; such a number is kept
as its text, because no field of the configuration holds one.
-/
namespace LaunchConfig

inductive Json
  | null
  | boolean (held : Bool)
  | integer (held : Int)
  | real (written : String)
  | string (held : String)
  | array (items : List Json)
  | object (members : List (String × Json))
  deriving Inhabited

namespace Json

def member? (name : String) : Json → Option Json
  | object members => members.lookup name
  | _ => none

def boolean? : Json → Option Bool
  | boolean held => some held
  | _ => none

def string? : Json → Option String
  | string held => some held
  | _ => none

def array? : Json → Option (List Json)
  | array items => some items
  | _ => none

/-- The integer that is written, if it is from zero up to, but not including, a power of two. -/
def unsigned? (width : Nat) : Json → Option Nat
  | integer held => if 0 ≤ held ∧ held < Nat.pow 2 width then some held.toNat else none
  | _ => none

def u16? (json : Json) : Option UInt16 :=
  (json.unsigned? 16).map UInt16.ofNat

def u32? (json : Json) : Option UInt32 :=
  (json.unsigned? 32).map UInt32.ofNat

def u64? (json : Json) : Option UInt64 :=
  (json.unsigned? 64).map UInt64.ofNat

end Json

abbrev JsonRecord := List (String × Json)

/-- No field is named twice. -/
def Json.namesOnce (fields : List String) (members : List (String × Json)) : Bool :=
  fields.all fun name => (members.map Prod.fst).count name ≤ 1

/-- The members of a record with the given fields. A record is an object that names no field twice,
whose other members do not matter, or an array of just the fields' values in order. -/
def Json.record? (fields : List String) : Json → Option JsonRecord
  | object members => if namesOnce fields members then some members else none
  | array items => if items.length = fields.length then some (fields.zip items) else none
  | _ => none

namespace JsonRecord

def field? (record : JsonRecord) (name : String) (decode : Json → Option α) : Option α :=
  (record.lookup name).bind decode

/-- The value of a field that may be absent or null. -/
def optional? (record : JsonRecord) (name : String) (decode : Json → Option α) :
    Option (Option α) :=
  match record.lookup name with
  | none | some .null => some none
  | some value => (decode value).map some

end JsonRecord

end LaunchConfig
