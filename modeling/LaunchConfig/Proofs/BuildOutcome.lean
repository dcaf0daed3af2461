import LaunchConfig.Proofs.Blueprint

/-!
The outcome of building a store, stage by stage. The keys with a value are gone through in an order
that nobody fixes; which of several values that do not fit is reported is all that depends on it.
-/
namespace LaunchConfig.Blueprint

variable (blueprint : Blueprint)

/-- An order in which the keys with a value may be gone through. -/
def Enumeration (order : List (String × Value)) : Prop :=
  ∀ declaration, blueprint.declaration = .ok declaration → order.Perm declaration.resolve.pairs

def buildIn (order : List (String × Value)) : Except ConfigError Store := do
  let _ ← blueprint.declaration
  assemble blueprint.profiles order

/-- What a built store holds: the last value of every key that is not derived, in the kind of its
key, while derived keys can be computed and agree with the values declared for them. -/
structure Built (store : Store) : Prop where
  ready : blueprint.Ready
  total : ∃ total, blueprint.Total total ∧ total < 2 ^ 63 ∧
    ∀ fault, ¬ blueprint.Refused .instanceNum (.integer (Int64.ofInt total)) fault
  path : ∃ path, blueprint.KeyPath path ∧
    ∀ fault, ¬ blueprint.Refused .privateKey (.text path) fault
  entries : ∀ key, store.entries.get? key =
    if Store.isDerived key then none else (blueprint.final? key).map (settled key)
  profiles : store.profiles =
    if blueprint.profiles = [] then [Profile.defaultName] else blueprint.profiles

/-- The outcomes, by the first stage that fails. Only values that do not fit leave a choice. -/
inductive Outcome : Except ConfigError Store → Prop
  | unknownProfile {before after : List String} {name : String}
      (selected : blueprint.profiles = before ++ name :: after)
      (known : ∀ earlier ∈ before, (blueprint.registry.profiles.get? earlier).isSome)
      (unknown : blueprint.registry.profiles.get? name = none) :
      Outcome (.error (.unknownProfile name))
  | unfit {spec : KeySpec} {fault : ConfigError} (known : blueprint.Known)
      (unfit : blueprint.Unfit spec fault) : Outcome (.error fault)
  | missing {keys : List String} (known : blueprint.Known) (fit : blueprint.Fit)
      (some : keys ≠ []) (ascending : keys.Pairwise (· < ·))
      (absent : ∀ key, key ∈ keys ↔ blueprint.Absent key) :
      Outcome (.error (.missingRequired keys))
  | overflow {total : Int} (ready : blueprint.Ready) (sum : blueprint.Total total)
      (large : 2 ^ 63 ≤ total) :
      Outcome (.error (.invalidValue "INSTANCE_NUM" .countOverflow))
  | refusedTotal {total : Int} {fault : ConfigError} (ready : blueprint.Ready)
      (sum : blueprint.Total total) (small : total < 2 ^ 63)
      (refused : blueprint.Refused .instanceNum (.integer (Int64.ofInt total)) fault) :
      Outcome (.error fault)
  | refusedPath {total : Int} {path : String} {fault : ConfigError} (ready : blueprint.Ready)
      (sum : blueprint.Total total) (small : total < 2 ^ 63)
      (agrees : ∀ fault, ¬ blueprint.Refused .instanceNum (.integer (Int64.ofInt total)) fault)
      (joined : blueprint.KeyPath path)
      (refused : blueprint.Refused .privateKey (.text path) fault) :
      Outcome (.error fault)
  | built {store : Store} (built : blueprint.Built store) : Outcome (.ok store)

variable {blueprint}

theorem buildIn_of_known (known : blueprint.Known) (order : List (String × Value)) :
    blueprint.buildIn order = assemble blueprint.profiles order := by
  rw [buildIn, declaration_of_known known, ok_bind]

theorem build_eq_buildIn : blueprint.build = blueprint.buildIn blueprint.sources.resolve.pairs := by
  rcases known_or_unknown blueprint with known | ⟨fault, unknown⟩
  · rw [buildIn_of_known known, build, declaration_of_known known, ok_bind]
  · rw [build, buildIn, unknown, error_bind, error_bind]

theorem enumeration_of_perm {order : List (String × Value)}
    (enumerated : order.Perm blueprint.sources.resolve.pairs) : blueprint.Enumeration order := by
  intro declaration success
  rcases known_or_unknown blueprint with known | ⟨fault, unknown⟩
  · cases (declaration_of_known known).symm.trans success
    exact enumerated
  · cases success.symm.trans unknown

theorem Enumeration.perm {order : List (String × Value)} (enumerated : blueprint.Enumeration order)
    (known : blueprint.Known) : order.Perm blueprint.sources.resolve.pairs :=
  enumerated _ (declaration_of_known known)

/-- The store of the settings, under the selected profiles. -/
def finished (blueprint : Blueprint) : Store :=
  ⟨blueprint.settings,
    if blueprint.profiles.isEmpty then [Profile.defaultName] else blueprint.profiles⟩

-- Once all values fit, the order is left behind: it is only looked into for derived keys.
theorem buildIn_of_fit {order : List (String × Value)} (known : blueprint.Known)
    (fit : blueprint.Fit) (enumerated : order.Perm blueprint.sources.resolve.pairs) :
    blueprint.buildIn order =
      if missing blueprint.settings = [] then
        checkDerived order blueprint.settings .instanceNum >>= fun _ =>
          checkDerived order blueprint.settings .privateKey >>= fun _ => .ok blueprint.finished
      else .error (.missingRequired (missing blueprint.settings)) := by
  rw [buildIn_of_known known, assemble, settleAll_of_fit enumerated fit, ok_bind]
  by_cases complete : missing blueprint.settings = []
  · simp [complete, Derivation.all, finished, pure, Except.pure, ok_bind]
  · simp [complete]
    rfl

theorem ready_iff (known : blueprint.Known) (fit : blueprint.Fit) :
    blueprint.Ready ↔ missing blueprint.settings = [] := by
  rw [List.eq_nil_iff_forall_not_mem]
  simp only [mem_missing_iff]
  exact ⟨fun ready => ready.complete, fun complete => ⟨known, fit, complete⟩⟩

theorem Ready.total (ready : blueprint.Ready) : ∃ total, blueprint.Total total ∧
    Derivation.instanceNum.compute (fun key => (blueprint.settings.get? key).map Setting.value) =
      if total < 2 ^ 63 then .ok (.integer (Int64.ofInt total))
      else .error (.invalidValue "INSTANCE_NUM" .countOverflow) := by
  obtain ⟨controllers, positive, assigned, stored⟩ :=
    ready.count "CONTROLLER_NUM" rfl rfl rfl rfl
  obtain ⟨workers, positive', assigned', stored'⟩ := ready.count "WORKER_NUM" rfl rfl rfl rfl
  refine ⟨_, ⟨controllers, workers, assigned, assigned', rfl⟩, ?_⟩
  exact Derivation.compute_instanceNum (by simp [stored]) (by simp [stored'])
    ⟨positive, positive'⟩

theorem Ready.path (ready : blueprint.Ready) : ∃ path, blueprint.KeyPath path ∧
    Derivation.privateKey.compute (fun key => (blueprint.settings.get? key).map Setting.value) =
      .ok (.text path) := by
  obtain ⟨directory, assigned, stored⟩ := ready.text "PRIVATE_KEY_DIR" rfl rfl rfl rfl
  obtain ⟨name, assigned', stored'⟩ := ready.text "KEY_NAME" rfl rfl rfl rfl
  refine ⟨_, ⟨directory, name, assigned, assigned', rfl⟩, ?_⟩
  exact Derivation.compute_privateKey (by simp [stored]) (by simp [stored'])

theorem Total.unique {left right : Int} (first : blueprint.Total left)
    (second : blueprint.Total right) : left = right := by
  obtain ⟨controllers, workers, some, some', rfl⟩ := first
  obtain ⟨controllers', workers', other, other', rfl⟩ := second
  cases some.symm.trans other
  cases some'.symm.trans other'
  rfl

theorem KeyPath.unique {left right : String} (first : blueprint.KeyPath left)
    (second : blueprint.KeyPath right) : left = right := by
  obtain ⟨directory, name, some, some', rfl⟩ := first
  obtain ⟨directory', name', other, other', rfl⟩ := second
  cases some.symm.trans other
  cases some'.symm.trans other'
  rfl

theorem built_finished {total : Int} {path : String} (ready : blueprint.Ready)
    (sum : blueprint.Total total) (small : total < 2 ^ 63)
    (totalAgrees : ∀ fault, ¬ blueprint.Refused .instanceNum (.integer (Int64.ofInt total)) fault)
    (joined : blueprint.KeyPath path)
    (pathAgrees : ∀ fault, ¬ blueprint.Refused .privateKey (.text path) fault) :
    blueprint.Built blueprint.finished where
  ready := ready
  total := ⟨total, sum, small, totalAgrees⟩
  path := ⟨path, joined, pathAgrees⟩
  entries := get?_settings
  profiles := by simp [finished]

theorem eq_finished {store : Store} (built : blueprint.Built store) :
    store = blueprint.finished := by
  obtain ⟨entries, profiles⟩ := store
  have sameEntries : entries = blueprint.settings := by
    apply KeyMap.ext_get?
    intro key
    rw [get?_settings]
    exact built.entries key
  have sameProfiles := built.profiles
  simp only at sameProfiles
  simp [finished, sameEntries, sameProfiles]

/-- What is stored was assigned, and then brought into the kind of its key. -/
theorem Built.exists_assigned {store : Store} (built : blueprint.Built store) {key : String}
    {value : Value} (stored : store.stored? key = some value) :
    ∃ assigned, (key, assigned) ∈ blueprint.sources.assignments ∧
      (settled key assigned).value = value := by
  rw [Store.stored?, built.entries] at stored
  by_cases derived : Store.isDerived key = true
  · simp [derived] at stored
  · simp only [derived, Bool.false_eq_true, if_false, Option.map_map,
      Option.map_eq_some_iff] at stored
    obtain ⟨assigned, final, same⟩ := stored
    exact ⟨assigned, mem_of_final? final, same⟩

-- Down the stages: each either fails, which is one of the outcomes, or hands its facts on.
theorem outcome_of_perm {order : List (String × Value)} (known : blueprint.Known)
    (enumerated : order.Perm blueprint.sources.resolve.pairs) :
    blueprint.Outcome (blueprint.buildIn order) := by
  rcases ok_or_error (settleAll order) with ⟨entries, settledAll⟩ | ⟨fault, failed⟩
  · have fit := fit_of_settleAll enumerated settledAll
    rw [buildIn_of_fit known fit enumerated]
    by_cases complete : missing blueprint.settings = []
    · have ready := (ready_iff known fit).mpr complete
      obtain ⟨total, sum, totalComputes⟩ := ready.total
      obtain ⟨path, joined, pathComputes⟩ := ready.path
      rw [if_pos complete]
      by_cases small : total < 2 ^ 63
      · rw [if_pos small] at totalComputes
        rcases ok_or_error (checkDerived order blueprint.settings .instanceNum) with
          ⟨_, totalFine⟩ | ⟨fault, refused⟩
        · have totalAgrees : ∀ fault,
              ¬ blueprint.Refused .instanceNum (.integer (Int64.ofInt total)) fault := by
            intro fault refused
            cases totalFine.symm.trans
              ((checkDerived_eq_error_iff enumerated totalComputes fault).mpr refused)
          rw [totalFine, ok_bind]
          rcases ok_or_error (checkDerived order blueprint.settings .privateKey) with
            ⟨_, pathFine⟩ | ⟨fault, refused⟩
          · rw [pathFine, ok_bind]
            refine .built (built_finished ready sum small totalAgrees joined ?_)
            intro fault refused
            cases pathFine.symm.trans
              ((checkDerived_eq_error_iff enumerated pathComputes fault).mpr refused)
          · rw [refused, error_bind]
            exact .refusedPath ready sum small totalAgrees joined
              ((checkDerived_eq_error_iff enumerated pathComputes fault).mp refused)
        · rw [refused, error_bind]
          exact .refusedTotal ready sum small
            ((checkDerived_eq_error_iff enumerated totalComputes fault).mp refused)
      · rw [if_neg small] at totalComputes
        rw [checkDerived, totalComputes, error_bind, error_bind]
        exact .overflow ready sum (Int.not_lt.mp small)
    · rw [if_neg complete]
      exact .missing known fit complete (missing_ascending _) fun key => mem_missing_iff
  · obtain ⟨spec, unfit⟩ := unfit_of_settleAll enumerated failed
    rw [buildIn_of_known known, assemble, failed, error_bind]
    exact .unfit known unfit

theorem outcome_buildIn {order : List (String × Value)}
    (enumerated : blueprint.Enumeration order) : blueprint.Outcome (blueprint.buildIn order) := by
  rcases known_or_unknown blueprint with known | ⟨fault, failed⟩
  · exact outcome_of_perm known (enumerated.perm known)
  · obtain ⟨before, name, after, selected, fine, unknown, rfl⟩ :=
      declaration_eq_error_iff.mp failed
    rw [buildIn, failed, error_bind]
    exact .unknownProfile selected fine unknown

theorem checkDerived_eq_ok {order : List (String × Value)}
    (enumerated : order.Perm blueprint.sources.resolve.pairs) {entries : KeyMap Setting}
    {derivation : Derivation} {computed : Value}
    (computes : derivation.compute (fun key => (entries.get? key).map Setting.value) = .ok computed)
    (agrees : ∀ fault, ¬ blueprint.Refused derivation computed fault) :
    checkDerived order entries derivation = .ok () := by
  rcases ok_or_error (checkDerived order entries derivation) with ⟨_, fine⟩ | ⟨fault, failed⟩
  · exact fine
  · exact absurd ((checkDerived_eq_error_iff enumerated computes fault).mp failed) (agrees fault)

-- Up the stages: the facts of an outcome say what each stage does, whatever the order.
theorem buildIn_of_outcome {order : List (String × Value)} {outcome : Except ConfigError Store}
    (possible : blueprint.Outcome outcome) (fit : blueprint.Fit)
    (enumerated : blueprint.Enumeration order) : blueprint.buildIn order = outcome := by
  have ordered : ∀ ready : blueprint.Ready, blueprint.buildIn order =
      checkDerived order blueprint.settings .instanceNum >>= fun _ =>
        checkDerived order blueprint.settings .privateKey >>= fun _ => .ok blueprint.finished := by
    intro ready
    rw [buildIn_of_fit ready.known ready.fit (enumerated.perm ready.known),
      if_pos ((ready_iff ready.known ready.fit).mp ready)]
  have totalComputes : ∀ {total}, blueprint.Ready → blueprint.Total total →
      Derivation.instanceNum.compute (fun key => (blueprint.settings.get? key).map Setting.value) =
        if total < 2 ^ 63 then .ok (.integer (Int64.ofInt total))
        else .error (.invalidValue "INSTANCE_NUM" .countOverflow) := by
    intro total ready sum
    obtain ⟨other, sum', computes⟩ := ready.total
    rwa [sum.unique sum']
  have pathComputes : ∀ {path}, blueprint.Ready → blueprint.KeyPath path →
      Derivation.privateKey.compute (fun key => (blueprint.settings.get? key).map Setting.value) =
        .ok (.text path) := by
    intro path ready joined
    obtain ⟨other, joined', computes⟩ := ready.path
    rwa [joined.unique joined']
  cases possible with
  | unknownProfile selected known unknown =>
    rw [buildIn, declaration_eq_error_iff.mpr ⟨_, _, _, selected, known, unknown, rfl⟩, error_bind]
  | unfit known unfit => exact absurd unfit (fit _ _)
  | missing known fit some ascending absent =>
    have same := keys_ext (missing_ascending blueprint.settings) ascending fun key =>
      mem_missing_iff.trans (absent key).symm
    rw [buildIn_of_fit known fit (enumerated.perm known), same, if_neg some]
  | overflow ready sum large =>
    rw [ordered ready, checkDerived, totalComputes ready sum, if_neg (Int.not_lt.mpr large)]
    rfl
  | refusedTotal ready sum small refused =>
    have computes := (totalComputes ready sum).trans (if_pos small)
    rw [ordered ready,
      (checkDerived_eq_error_iff (enumerated.perm ready.known) computes _).mpr refused, error_bind]
  | refusedPath ready sum small agrees joined refused =>
    have computes := (totalComputes ready sum).trans (if_pos small)
    rw [ordered ready, checkDerived_eq_ok (enumerated.perm ready.known) computes agrees, ok_bind,
      (checkDerived_eq_error_iff (enumerated.perm ready.known) (pathComputes ready joined) _).mpr
        refused, error_bind]
  | built built =>
    have ready := built.ready
    obtain ⟨total, sum, small, totalAgrees⟩ := built.total
    obtain ⟨path, joined, pathAgrees⟩ := built.path
    have computes := (totalComputes ready sum).trans (if_pos small)
    rw [ordered ready, checkDerived_eq_ok (enumerated.perm ready.known) computes totalAgrees,
      ok_bind, checkDerived_eq_ok (enumerated.perm ready.known) (pathComputes ready joined)
        pathAgrees, ok_bind, ← eq_finished built]

theorem exists_order_of_outcome {outcome : Except ConfigError Store}
    (possible : blueprint.Outcome outcome) :
    ∃ order, blueprint.Enumeration order ∧ blueprint.buildIn order = outcome := by
  rcases Classical.em blueprint.Fit with fit | unfit
  · have enumerated := enumeration_of_perm (List.Perm.refl blueprint.sources.resolve.pairs)
    exact ⟨_, enumerated, buildIn_of_outcome possible fit enumerated⟩
  · -- A value does not fit, so the stages behind the check of values are not reached.
    cases possible with
    | unfit known unfit =>
      obtain ⟨order, enumerated, failed⟩ := exists_order_of_unfit unfit
      refine ⟨order, enumeration_of_perm enumerated, ?_⟩
      rw [buildIn_of_known known, assemble, failed, error_bind]
    | unknownProfile selected known unknown =>
      refine ⟨_, enumeration_of_perm (List.Perm.refl _), ?_⟩
      rw [buildIn, declaration_eq_error_iff.mpr ⟨_, _, _, selected, known, unknown, rfl⟩,
        error_bind]
    | missing _ fit => exact absurd fit unfit
    | overflow ready => exact absurd ready.fit unfit
    | refusedTotal ready => exact absurd ready.fit unfit
    | refusedPath ready => exact absurd ready.fit unfit
    | built built => exact absurd built.ready.fit unfit

theorem outcome_build (blueprint : Blueprint) : blueprint.Outcome blueprint.build := by
  rw [build_eq_buildIn]
  exact outcome_buildIn (enumeration_of_perm (List.Perm.refl _))

theorem Ready.buildIn_eq_build (ready : blueprint.Ready) {order : List (String × Value)}
    (enumerated : blueprint.Enumeration order) : blueprint.buildIn order = blueprint.build :=
  buildIn_of_outcome blueprint.outcome_build ready.fit enumerated

theorem build_eq_ok_iff {store : Store} :
    blueprint.build = .ok store ↔ blueprint.Built store := by
  constructor
  · intro success
    have possible := blueprint.outcome_build
    rw [success] at possible
    cases possible with
    | built built => exact built
  · intro built
    rw [build_eq_buildIn]
    exact buildIn_of_outcome (.built built) built.ready.fit
      (enumeration_of_perm (List.Perm.refl blueprint.sources.resolve.pairs))

theorem Unfit.unique {spec : KeySpec} {fault fault' : ConfigError}
    (unfit : blueprint.Unfit spec fault) (unfit' : blueprint.Unfit spec fault') :
    fault = fault' := by
  obtain ⟨-, -, value, assigned, refused⟩ := unfit
  obtain ⟨-, -, value', assigned', refused'⟩ := unfit'
  cases assigned.symm.trans assigned'
  exact Except.error.inj (refused.symm.trans refused')

theorem exists_unfit_of_not_fit (known : blueprint.Known) (unfit : ¬ blueprint.Fit)
    {order : List (String × Value)} (enumerated : blueprint.Enumeration order) :
    ∃ spec fault, blueprint.Unfit spec fault ∧ blueprint.buildIn order = .error fault := by
  rw [buildIn_of_known known, assemble]
  rcases ok_or_error (settleAll order) with ⟨_, settledAll⟩ | ⟨fault, failed⟩
  · exact absurd (fit_of_settleAll (enumerated.perm known) settledAll) unfit
  · obtain ⟨spec, bad⟩ := unfit_of_settleAll (enumerated.perm known) failed
    exact ⟨spec, fault, bad, by rw [failed, error_bind]⟩

-- With one value that does not fit, every order reports that value.
theorem buildIn_eq_build {order : List (String × Value)}
    (single : ∀ {spec spec' fault fault'}, blueprint.Unfit spec fault →
      blueprint.Unfit spec' fault' → spec = spec')
    (enumerated : blueprint.Enumeration order) : blueprint.buildIn order = blueprint.build := by
  have canonical := enumeration_of_perm (List.Perm.refl blueprint.sources.resolve.pairs)
  have possible := outcome_buildIn canonical
  rw [build_eq_buildIn]
  rcases Classical.em blueprint.Fit with fit | unfit
  · exact buildIn_of_outcome possible fit enumerated
  rcases known_or_unknown blueprint with known | ⟨fault, unknown⟩
  · obtain ⟨spec, fault, bad, failed⟩ := exists_unfit_of_not_fit known unfit enumerated
    obtain ⟨spec', fault', bad', failed'⟩ := exists_unfit_of_not_fit known unfit canonical
    obtain rfl := single bad bad'
    rw [failed, failed', bad.unique bad']
  · rw [buildIn, buildIn, unknown, error_bind, error_bind]

/-- Building has exactly the outcomes of the stages, over all orders of going through the keys. The
value that counts for a key is the last one assigned to it. The order matters only when two keys
have values that do not fit. -/
theorem build_outcome (blueprint : Blueprint) :
    (∀ outcome, (∃ order, blueprint.Enumeration order ∧ blueprint.buildIn order = outcome) ↔
      blueprint.Outcome outcome) ∧
    (∀ key value, blueprint.final? key = some value ↔ ∃ before after,
      blueprint.sources.assignments = before ++ (key, value) :: after ∧
        key ∉ after.map Prod.fst) ∧
    ((∀ {spec spec' fault fault'}, blueprint.Unfit spec fault → blueprint.Unfit spec' fault' →
      spec = spec') → ∀ order, blueprint.Enumeration order →
        blueprint.buildIn order = blueprint.build) ∧
    (∃ order, blueprint.Enumeration order ∧ blueprint.buildIn order = blueprint.build) ∧
    ∀ keys, (ConfigError.missingRequired keys).message =
      "required configuration key missing: " ++ ", ".intercalate keys := by
  have canonical := enumeration_of_perm (List.Perm.refl blueprint.sources.resolve.pairs)
  refine ⟨fun outcome => ⟨?_, exists_order_of_outcome⟩, fun key value => value?_eq_some_iff,
    fun single order => buildIn_eq_build single, ⟨_, canonical, build_eq_buildIn.symm⟩,
    fun keys => rfl⟩
  rintro ⟨order, enumerated, rfl⟩
  exact outcome_buildIn enumerated

end LaunchConfig.Blueprint
