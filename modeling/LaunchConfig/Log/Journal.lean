import LaunchConfig.Log.Event
import LaunchConfig.Store.Blueprint

/-!
The events of building a store, in the order in which its parts are examined. A failure ends the
journal, so it holds what happened before.
-/
namespace LaunchConfig.Journal

def ofOverrides (start : String) : List (String × String) → List Event
  | [] => []
  | (name, raw) :: rest =>
    match Text.dropStart? start name with
    | none => ofOverrides start rest
    | some key =>
      match Schema.lookup? key with
      | none => .overrideIgnored name :: ofOverrides start rest
      | some spec =>
        match spec.parseRaw raw with
        | .ok value => .overridden key value :: ofOverrides start rest
        | .error _ => []

/-- The events of turning assignments into settings. -/
def ofSettling : List (String × Value) → List Event
  | [] => []
  | (key, value) :: rest =>
    if Store.isDerived key then ofSettling rest
    else match Blueprint.settle key value with
      | .ok setting =>
        if setting.category = .other then .keyOutsideSchema key :: ofSettling rest
        else ofSettling rest
      | .error _ => []

def ofDerivations (assigned : List (String × Value)) (entries : KeyMap Setting) :
    List Derivation → List Event
  | [] => []
  | derivation :: rest =>
    match Blueprint.checkDerived assigned entries derivation with
    | .ok () =>
      let later := ofDerivations assigned entries rest
      if (assigned.lookup derivation.key).isSome then .derivationAgrees derivation.key :: later
      else later
    | .error _ => []

/-- The events of checking derived keys, once all required settings are there. -/
def ofChecks (assigned : List (String × Value)) : List Event :=
  match Blueprint.settleAll assigned with
  | .ok entries =>
    if (Blueprint.missing entries).isEmpty then ofDerivations assigned entries Derivation.all
    else []
  | .error _ => []

def ofResult : Except ConfigError Store → List Event
  | .ok store => [.storeReady store.profiles store.entries.size Derivation.all.length]
  | .error _ => []

def ofBuild (blueprint : Blueprint) : List Event :=
  match blueprint.registry.select blueprint.profiles, blueprint.declaration with
  | .ok chosen, .ok declaration =>
    let assigned := declaration.resolve.pairs
    chosen.map (fun profile => .profileApplied profile.name profile.overrides.size)
      ++ declaration.redeclarations.map .redeclared
      ++ ofSettling assigned
      ++ ofChecks assigned
      ++ ofResult blueprint.build
  | _, _ => []

end LaunchConfig.Journal
