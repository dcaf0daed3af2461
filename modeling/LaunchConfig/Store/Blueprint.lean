import LaunchConfig.Declaration.Manifest
import LaunchConfig.Declaration.Overlay
import LaunchConfig.Declaration.Overrides
import LaunchConfig.Profile
import LaunchConfig.Store.Basic

/-!
Building a store. A blueprint names the declarations that go into it: a base, profiles and
overlays. The store holds the last value of each key, once every value fits its key, no key is
missing, and derived keys that were declared agree with their inputs.
-/
namespace LaunchConfig

/-- What a store is built from. Overlays count more than profiles, and profiles more than the
base; among themselves, the later counts. -/
structure Blueprint where
  base : Declaration
  registry : Registry
  profiles : List String
  overlays : List Declaration

namespace Blueprint

def standard : Blueprint := ⟨.manifest, .standard, [], []⟩

def select (blueprint : Blueprint) (name : String) : Blueprint :=
  { blueprint with profiles := blueprint.profiles ++ [name] }

def overlay (blueprint : Blueprint) (declaration : Declaration) : Blueprint :=
  { blueprint with overlays := blueprint.overlays ++ [declaration] }

def declaration (blueprint : Blueprint) : Except ConfigError Declaration := do
  let chosen ← blueprint.registry.select blueprint.profiles
  let profiled := chosen.foldl (fun held profile => held.merge profile.overrides) blueprint.base
  return blueprint.overlays.foldl Declaration.merge profiled

/-- The setting that a value makes of its key. Keys outside the schema take any value. -/
def settle (key : String) (value : Value) : Except ConfigError Setting :=
  match Schema.lookup? key with
  | some spec => do
    let stored ← spec.accept value
    return ⟨stored, spec.category⟩
  | none => .ok ⟨value, .other⟩

/-- The settings of all keys that are not derived. The first value that does not fit its key, in
the given order, decides the error. -/
def settleAll (assigned : List (String × Value)) : Except ConfigError (KeyMap Setting) := do
  let settled ← (assigned.filter fun (key, _) => !Store.isDerived key).mapM fun (key, value) => do
    let setting ← settle key value
    return (key, setting)
  return KeyMap.ofList settled

def missing (entries : KeyMap Setting) : List String :=
  (KeyMap.ofList (Schema.required.map fun spec => (spec.key, spec))).keys.filter
    fun key => !entries.contains key

/-- A derived key can be computed, and a value declared for it agrees with the computed one. -/
def checkDerived (assigned : List (String × Value)) (entries : KeyMap Setting)
    (derivation : Derivation) : Except ConfigError Unit := do
  let computed ← derivation.compute fun key => (entries.get? key).map Setting.value
  match assigned.lookup derivation.key with
  | none => return ()
  | some value =>
    let declared ← settle derivation.key value
    if declared.value = computed then return ()
    else throw (.derivationConflict derivation.key declared.value.display computed.display)

/-- The store of the given assignments, which assign each key once. Their order matters only to
the choice among several errors. -/
def assemble (profiles : List String) (assigned : List (String × Value)) :
    Except ConfigError Store := do
  let entries ← settleAll assigned
  if !(missing entries).isEmpty then throw (.missingRequired (missing entries))
  Derivation.all.forM (checkDerived assigned entries)
  return ⟨entries, if profiles.isEmpty then [Profile.defaultName] else profiles⟩

def build (blueprint : Blueprint) : Except ConfigError Store := do
  let declaration ← blueprint.declaration
  assemble blueprint.profiles declaration.resolve.pairs

end Blueprint

end LaunchConfig
