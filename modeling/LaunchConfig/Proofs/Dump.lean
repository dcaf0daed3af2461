import LaunchConfig.CommandLine.Execution
import LaunchConfig.Proofs.RawText
import LaunchConfig.Proofs.Reload

/-!
Dumping all settings of a command line as TOML, and reading the dump as an overlay. A command line
cannot assign what the dump would lose, and the dump assigns every key of the schema, so nothing that
the manifest and the profiles say about them is left to count.
-/
namespace LaunchConfig

theorem fromUTF8?_toUTF8 (source : String) : String.fromUTF8? source.toUTF8 = some source := by
  have valid : source.toUTF8.IsValidUTF8 := source.isValidUTF8
  rw [String.fromUTF8?, dif_pos valid]
  rfl

namespace Declaration

theorem tame_of_file {path : String} {content : Except FileFault ByteArray}
    {declaration : Declaration} (read : ofFile path content = .ok declaration) :
    declaration.Tame := by
  unfold ofFile at read
  split at read
  · cases read
  · split at read
    · unfold ofToml at read
      split at read
      · intro pair assigned
        obtain ⟨noSeconds, reserved⟩ := mem_ofTable read assigned
        exact ⟨fun seconds same => absurd same (noSeconds seconds), reserved⟩
      · cases read
    · cases read

theorem tame_of_overrides {start : String} {environment : List (String × String)}
    {declaration : Declaration} (read : ofOverrides start environment = .ok declaration) :
    declaration.Tame := by
  apply tame_of_listed
  intro pair assigned
  obtain ⟨spec, raw, listed, -, -⟩ := mem_ofOverrides read assigned
  simp [listed]

end Declaration

namespace Blueprint

/-- An overlay with the values of a store hides what the manifest and the profiles assign. -/
theorem echoes_of_overlay {store : Store} (sound : store.Sound) {declaration : Declaration}
    (echo : ∀ key, declaration.value? key = (store.value key).toOption.map Value.reread)
    (profiles : List String) :
    ({ standard with profiles, overlays := [declaration] } : Blueprint).Echoes store := by
  intro key
  have split : ({ standard with profiles, overlays := [declaration] } : Blueprint).sources =
      (stack profiles).sources.merge declaration := by
    simp [sources, stack, standard, Declaration.merge]
  rw [final?, split, value?_merge, echo]
  cases read : store.value key with
  | ok value => rfl
  | error fault =>
    rw [show (Except.error fault : Except ConfigError Value).toOption = none from rfl,
      Option.map_none, Option.none_or]
    -- A key that the manifest or a profile assigns is required, so the store has a value for it.
    refine final?_eq_none_iff.mpr fun assigned => ?_
    obtain ⟨pair, member, rfl⟩ := List.mem_map.mp assigned
    obtain ⟨spec, required, named, -⟩ := stack_fitting profiles pair member
    obtain ⟨inTable, plain⟩ := List.mem_filter.mp required
    have listed := Schema.lookup?_eq_some_iff.mpr ⟨inTable, named⟩
    obtain ⟨value, stored, -⟩ := sound.stored pair.1 listed (by simpa using plain)
    cases read.symm.trans (Store.value_of_stored stored)

end Blueprint

namespace CommandLine.Invocation

variable {invocation : Invocation} {surroundings : Surroundings}

theorem within_eq_ok_iff {α : Type} {context : String} {outcome : Except ConfigError α} {value : α} :
    Failure.within context outcome = .ok value ↔ outcome = .ok value :=
  mapError_eq_ok_iff

theorem bare_eq_ok_iff {α : Type} {outcome : Except ConfigError α} {value : α} :
    Failure.bare outcome = .ok value ↔ outcome = .ok value :=
  mapError_eq_ok_iff

theorem store_eq_ok_iff {store : Store} : invocation.store surroundings = .ok store ↔
    ∃ files overrides, invocation.fileOverlays surroundings = .ok files ∧
      invocation.variableOverlays surroundings = .ok overrides ∧
      Blueprint.build { Blueprint.standard with
        profiles := invocation.profiles
        overlays := files ++ overrides } = .ok store := by
  simp only [Invocation.store, Invocation.blueprint, bind_eq_ok_iff, within_eq_ok_iff]
  constructor
  · rintro ⟨blueprint, ⟨files, read, overrides, read', same⟩, built⟩
    cases same
    exact ⟨files, overrides, read, read', built⟩
  · rintro ⟨files, overrides, read, read', built⟩
    exact ⟨_, ⟨files, read, overrides, read', rfl⟩, built⟩

/-- The text of a dump is that of the store. -/
theorem execute_eq_ok_iff (dumps : invocation.command = .dump .toml) {text : String} :
    invocation.execute surroundings = .ok text ↔
      ∃ store, invocation.store surroundings = .ok store ∧ store.tomlText = .ok text := by
  unfold execute
  rw [dumps]
  simp only [bind_eq_ok_iff, answer, dumpText, bare_eq_ok_iff]

theorem store_stack {profiles : List String} {store : Store}
    (success : (Blueprint.stack profiles).build = .ok store) (command : Command)
    (level : LogLevel) (format : LogFormat) (surroundings : Surroundings) :
    (Invocation.mk command profiles [] false level format).store surroundings = .ok store :=
  store_eq_ok_iff.mpr ⟨[], [], rfl, rfl, success⟩

theorem execute_stack {profiles : List String} {store : Store} {text : String}
    (success : (Blueprint.stack profiles).build = .ok store) (printed : store.tomlText = .ok text)
    (level : LogLevel) (format : LogFormat) (surroundings : Surroundings) :
    (Invocation.mk (.dump .toml) profiles [] false level format).execute surroundings = .ok text :=
  (execute_eq_ok_iff rfl).mpr ⟨store, store_stack success _ level format surroundings, printed⟩

theorem tame_overlays {files overrides : List Declaration}
    (read : invocation.fileOverlays surroundings = .ok files)
    (read' : invocation.variableOverlays surroundings = .ok overrides) :
    ∀ overlay ∈ files ++ overrides, overlay.Tame := by
  intro overlay added
  rcases List.mem_append.mp added with file | override
  · obtain ⟨path, -, found⟩ := item_of_mapM_eq_ok read overlay file
    exact Declaration.tame_of_file (within_eq_ok_iff.mp found)
  · unfold variableOverlays at read'
    split at read'
    · cases made : Failure.within "解析环境变量覆盖失败"
        (Declaration.ofOverrides Declaration.variableStart surroundings.environment) with
      | error failure =>
        rw [made] at read'
        cases read'
      | ok declaration =>
        rw [made] at read'
        cases read'
        rw [List.mem_singleton.mp override]
        exact Declaration.tame_of_overrides (within_eq_ok_iff.mp made)
    · cases read'
      cases override

/-- A dump, read back as the only overlay, gives the same dump, whatever profiles are selected. -/
theorem dump_of_dump (first again : Invocation) (before after : Surroundings) (path text source : String)
    (dumps : first.command = .dump .toml) (dumped : first.execute before = .ok text)
    (dumps' : again.command = .dump .toml)
    (known : ∀ name ∈ again.profiles, name ∈ Registry.standard.names)
    (overlays : again.overlays = [path]) (noOverrides : again.envOverrides = false)
    (holds : Toml.Holds source text) (file : after.file path = .ok source.toUTF8) :
    again.execute after = .ok text := by
  obtain ⟨store, made, printed⟩ := (execute_eq_ok_iff dumps).mp dumped
  obtain ⟨files, overrides, read, read', success⟩ := store_eq_ok_iff.mp made
  have built := Blueprint.build_eq_ok_iff.mp success
  have sound := Store.sound_of_built built
  have faithful := Blueprint.faithful_of_tame built
    (Blueprint.tame_sources (tame_overlays read read'))
  obtain ⟨declaration, accepted, echo⟩ := Blueprint.exists_echo sound printed holds faithful
  have files' : again.fileOverlays after = .ok [declaration] := by
    have opened : Declaration.ofFile path (after.file path) = .ok declaration := by
      rw [file, Declaration.ofFile]
      simp only [fromUTF8?_toUTF8, accepted]
    rw [fileOverlays, overlays, mapM_cons_eq, opened]
    rfl
  have overrides' : again.variableOverlays after = .ok [] := by
    simp [variableOverlays, noOverrides]
  have echoes := Blueprint.echoes_of_overlay sound echo again.profiles
  have short := Store.writable_of_printed sound printed
  have selectable : Blueprint.Known { Blueprint.standard with
      profiles := again.profiles
      overlays := [declaration] } :=
    fun name selected => KeyMap.mem_keys_iff.mp (known name selected)
  have rebuilt := Blueprint.build_of_echoes sound selectable echoes short
  refine (execute_eq_ok_iff dumps').mpr
    ⟨_, store_eq_ok_iff.mpr ⟨[declaration], [], files', overrides', rebuilt⟩, ?_⟩
  rw [← printed]
  exact Store.tomlText_congr (Blueprint.entries_of_echoes sound echoes short faithful)

theorem dump_of_dump_california : ∃ text,
    (Invocation.mk (.dump .toml) ["us-west-1"] [] false .warn .compact).execute
      ⟨fun _ => .error .missing, []⟩ = .ok text ∧
    (Invocation.mk (.dump .toml) ["legacy-ami", "us-west-2"] ["dump.toml"] false .warn .compact).execute
      ⟨fun _ => .ok (text ++ "\n").toUTF8, [("NIMBUS_PART_X", "2")]⟩ = .ok text := by
  obtain ⟨store, text, success, printed⟩ := Blueprint.exists_text_stack ["us-west-1"] (by decide)
  have dumped := execute_stack success printed .warn .compact ⟨fun _ => .error .missing, []⟩
  refine ⟨text, dumped, ?_⟩
  exact dump_of_dump _ _ _ _ "dump.toml" text (text ++ "\n") rfl dumped rfl (by decide) rfl rfl
    (Or.inr (Or.inl rfl)) rfl

end CommandLine.Invocation

end LaunchConfig
