import LaunchConfig.KeyMap
import LaunchConfig.Toml.Basic

/-!
The table that a sequence of TOML statements describes. While statements are added, the assembly
remembers how each table came about, because that decides whether a later statement may add to it:
a table opened by its own header, or by a value, is closed to all other statements; one named on
the way to a header may still get its own header; one made by a dotted key may be extended by
further dotted keys.
-/
namespace LaunchConfig.Toml

inductive Statement
  | assign (path : List String) (value : Toml)
  | table (path : List String)
  | item (path : List String)

/-- How a table came about: by its header, by a dotted key, or on the way to a header. -/
inductive Origin
  | header
  | dotted
  | implied
  deriving DecidableEq, Repr

inductive Node
  | value (held : Toml)
  | table (origin : Origin) (entries : List (String × Node))
  | tables (items : List (List (String × Node)))

abbrev Entries := List (String × Node)

def onLast (change : Entries → Option Entries) (items : List Entries) : Option Node :=
  items.getLast?.bind fun last =>
    (change last).map fun changed => .tables (items.dropLast ++ [changed])

/-- Puts a value under a dotted key. The table that gets the value must be the one at hand or one
made by a dotted key. -/
def assignPath : List String → Toml → Entries → Option Entries
  | [], _, _ => none
  | [key], held, entries =>
    match entries.lookup key with
    | none => some (insertPair key (.value held) entries)
    | some _ => none
  | key :: next :: path, held, entries =>
    let below := assignPath (next :: path) held
    let node : Option Node := match entries.lookup key with
      | none => (below []).map (Node.table .dotted)
      | some (.table origin inner) =>
        if origin = .dotted ∨ (origin = .implied ∧ path ≠ []) then
          (below inner).map (Node.table origin)
        else none
      | some (.tables items) => if path = [] then none else onLast below items
      | some (.value _) => none
    node.map fun node => insertPair key node entries

/-- Puts a value under a dotted key of the table that a header names. -/
def assignBelow : List String → List String → Toml → Entries → Option Entries
  | [], path, held, entries => assignPath path held entries
  | key :: header, path, held, entries =>
    let below := assignBelow header path held
    let node : Option Node := match entries.lookup key with
      | some (.table origin inner) => (below inner).map (Node.table origin)
      | some (.tables items) => onLast below items
      | _ => none
    node.map fun node => insertPair key node entries

/-- Follows a header to its last key, where `place` decides what may stand there. -/
def openPath (place : Option Node → Option Node) : List String → Entries → Option Entries
  | [], _ => none
  | [key], entries => (place (entries.lookup key)).map fun node => insertPair key node entries
  | key :: next :: path, entries =>
    let below := openPath place (next :: path)
    let node : Option Node := match entries.lookup key with
      | none => (below []).map (Node.table .implied)
      | some (.table origin inner) => (below inner).map (Node.table origin)
      | some (.tables items) => onLast below items
      | some (.value _) => none
    node.map fun node => insertPair key node entries

/-- A table that gets its header: a new one, or one that was only named on the way to another. -/
def openTable : Option Node → Option Node
  | none => some (.table .header [])
  | some (.table .implied inner) => some (.table .header inner)
  | some _ => none

def openItem : Option Node → Option Node
  | none => some (.tables [[]])
  | some (.tables items) => some (.tables (items ++ [[]]))
  | some _ => none

mutual

def Node.close : Node → Toml
  | .value held => held
  | .table _ entries => .table (closeEntries entries)
  | .tables items => .array (closeItems items)

def closeEntries : List (String × Node) → List (String × Toml)
  | [] => []
  | (key, node) :: rest => (key, node.close) :: closeEntries rest

def closeItems : List (List (String × Node)) → List Toml
  | [] => []
  | entries :: rest => .table (closeEntries entries) :: closeItems rest

end

structure Assembly where
  header : List String
  entries : Entries

namespace Assembly

def start : Assembly := ⟨[], []⟩

def add (assembly : Assembly) : Statement → Option Assembly
  | .assign path held =>
    (assignBelow assembly.header path held assembly.entries).map fun entries =>
      ⟨assembly.header, entries⟩
  | .table path => (openPath openTable path assembly.entries).map fun entries => ⟨path, entries⟩
  | .item path => (openPath openItem path assembly.entries).map fun entries => ⟨path, entries⟩

def finish (assembly : Assembly) : KeyMap Toml :=
  KeyMap.ofList (closeEntries assembly.entries)

end Assembly

def assemble? (statements : List Statement) : Option (KeyMap Toml) :=
  (statements.foldlM Assembly.add .start).map Assembly.finish

/-- The table of the members between braces. Nothing outside the braces can add to it. -/
def inlineTable? (members : List (List String × Toml)) : Option Toml :=
  (members.foldlM (fun entries (path, held) => assignPath path held entries) []).map
    fun entries => .table (closeEntries entries)

end LaunchConfig.Toml
