import LaunchConfig.Derivation
import LaunchConfig.KeyMap
import LaunchConfig.Schema.Table

/-!
The configuration store: settings under keys, open to reading only. Derived keys are readable like
all others, but they are computed at each read and never stored.
-/
namespace LaunchConfig

structure Setting where
  value : Value
  category : Category
  deriving DecidableEq, Repr

/-- The settings of one configuration, and the profiles it was made with, in their order. -/
structure Store where
  entries : KeyMap Setting
  profiles : List String
  deriving DecidableEq

namespace Store

def stored? (store : Store) (key : String) : Option Value :=
  (store.entries.get? key).map Setting.value

/-- The value of a stored or derived key. -/
def value (store : Store) (key : String) : Except ConfigError Value :=
  match store.stored? key with
  | some value => .ok value
  | none =>
    match Derivation.lookup? key with
    | some derivation => derivation.compute store.stored?
    | none => .error (.unknownKey key)

/-- The value of a key, at a wanted type. -/
def get (store : Store) (reader : Reader α) (key : String) : Except ConfigError α := do
  let value ← store.value key
  reader.read key value

def isDerived (key : String) : Bool :=
  (Derivation.lookup? key).isSome

def contains (store : Store) (key : String) : Bool :=
  store.entries.contains key || isDerived key

/-- All keys that can be read, ascending. -/
def keys (store : Store) : List String :=
  (Derivation.all.foldl (fun marks derivation => marks.insert derivation.key ())
    (store.entries.map fun _ => ())).keys

/-- The settings of one category, by ascending key. -/
def entriesIn (store : Store) (category : Category) : List (String × Setting) :=
  store.entries.pairs.filter fun entry => entry.2.category = category

def categoryOf (store : Store) (key : String) : Except ConfigError Category :=
  match store.entries.get? key with
  | some setting => .ok setting.category
  | none =>
    match Derivation.lookup? key, Schema.lookup? key with
    | some _, some spec => .ok spec.category
    | _, _ => .error (.unknownKey key)

def total (store : Store) : Except ConfigError UInt64 :=
  store.get .u64 Derivation.instanceNum.key

def privateKeyPath (store : Store) : Except ConfigError String :=
  store.get .text Derivation.privateKey.key

/-- The value of every key that can be read. -/
def snapshot (store : Store) : Except ConfigError (KeyMap Value) := do
  let readings ← store.keys.mapM fun key => do
    let value ← store.value key
    return (key, value)
  return KeyMap.ofList readings

end Store

end LaunchConfig
