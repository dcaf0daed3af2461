import LaunchConfig.KeyMap
import LaunchConfig.Value

/-!
Declarations: values assigned to keys, one after the other. A key may be assigned more than once;
the last assignment of a key is the one that counts.
-/
namespace LaunchConfig

/-- Assignments of values to keys, in order. -/
structure Declaration where
  assignments : List (String × Value)
  deriving DecidableEq, Repr

namespace Declaration

def empty : Declaration := ⟨[]⟩

instance : Inhabited Declaration := ⟨empty⟩

def set (declaration : Declaration) (key : String) (value : Value) : Declaration :=
  ⟨declaration.assignments ++ [(key, value)]⟩

def merge (declaration other : Declaration) : Declaration :=
  ⟨declaration.assignments ++ other.assignments⟩

def size (declaration : Declaration) : Nat :=
  declaration.assignments.length

def isEmpty (declaration : Declaration) : Bool :=
  declaration.assignments.isEmpty

def value? (declaration : Declaration) (key : String) : Option Value :=
  declaration.assignments.reverse.lookup key

/-- The keys, each with its last value. -/
def resolve (declaration : Declaration) : KeyMap Value :=
  KeyMap.ofList declaration.assignments

structure Redeclaration where
  key : String
  earlier : Value
  later : Value
  deriving DecidableEq, Repr

/-- The assignments to keys that have a value by then, over the values held so far. -/
def redeclaredOver (held : KeyMap Value) : List (String × Value) → List Redeclaration
  | [] => []
  | (key, value) :: rest =>
    let later := redeclaredOver (held.insert key value) rest
    match held.get? key with
    | some earlier => ⟨key, earlier, value⟩ :: later
    | none => later

/-- The assignments that replace an earlier value, in order. -/
def redeclarations (declaration : Declaration) : List Redeclaration :=
  redeclaredOver .empty declaration.assignments

end Declaration

end LaunchConfig
