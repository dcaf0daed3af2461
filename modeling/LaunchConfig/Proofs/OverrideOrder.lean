import LaunchConfig.Proofs.RawText
import LaunchConfig.Proofs.Resolution

/-!
The order of an environment. Its variables are gone through one after the other; each either is passed
over, or assigns a key, or ends the walk with a fault. Since a name occurs once in an environment, the
order decides nothing but which of several faults is reported.
-/
namespace LaunchConfig.Declaration

/-- The variable is named for a key of the schema, but its text is refused for this key. -/
def Fails (start : String) (var : String × String) (fault : ConfigError) : Prop :=
  ∃ key spec, var.1 = start ++ key ∧ Schema.lookup? key = some spec ∧
    spec.parseRaw var.2 = .error fault

/-- The assignments that the variables make, in their order. A variable that is not named for a key
of the schema makes none. -/
inductive Yields (start : String) : List (String × String) → List (String × Value) → Prop
  | nil : Yields start [] []
  | other {name raw : String} {rest : List (String × String)} {assigned : List (String × Value)}
      (other : ∀ key, name = start ++ key → Schema.lookup? key = none)
      (tail : Yields start rest assigned) : Yields start ((name, raw) :: rest) assigned
  | override {key raw : String} {spec : KeySpec} {value : Value}
      {rest : List (String × String)} {assigned : List (String × Value)}
      (listed : Schema.lookup? key = some spec) (read : spec.parseRaw raw = .ok value)
      (tail : Yields start rest assigned) :
      Yields start ((start ++ key, raw) :: rest) ((key, value) :: assigned)

/-- The fault of the first variable that fails. -/
inductive FirstFault (start : String) : List (String × String) → ConfigError → Prop
  | here {var : String × String} {rest : List (String × String)} {fault : ConfigError}
      (fails : Fails start var fault) : FirstFault start (var :: rest) fault
  | later {var : String × String} {rest : List (String × String)} {fault : ConfigError}
      (passes : ∀ other, ¬ Fails start var other) (tail : FirstFault start rest fault) :
      FirstFault start (var :: rest) fault

variable {start : String} {environment : List (String × String)}

section Steps

variable {name key raw : String} {spec : KeySpec} {rest : List (String × String)}

theorem overridden?_eq_none_iff : overridden? start name = none ↔
    ∀ key, name = start ++ key → Schema.lookup? key = none := by
  simp only [Option.eq_none_iff_forall_ne_some]
  constructor
  · intro unknown key same spec listed
    exact unknown spec (overridden?_eq_some_iff.mpr ⟨key, same, listed⟩)
  · intro other spec known
    obtain ⟨key, same, listed⟩ := overridden?_eq_some_iff.mp known
    exact other key same spec listed

theorem overridden?_or (start name : String) :
    (∀ key, name = start ++ key → Schema.lookup? key = none) ∨
      ∃ key spec, name = start ++ key ∧ Schema.lookup? key = some spec := by
  cases known : overridden? start name with
  | none => exact Or.inl (overridden?_eq_none_iff.mp known)
  | some spec =>
    obtain ⟨key, same, listed⟩ := overridden?_eq_some_iff.mp known
    exact Or.inr ⟨key, spec, same, listed⟩

theorem ofOverrides_other (other : ∀ key, name = start ++ key → Schema.lookup? key = none) :
    ofOverrides start ((name, raw) :: rest) = ofOverrides start rest := by
  simp [ofOverrides, overriding, overridden?_eq_none_iff.mpr other]

theorem passes_of_other (other : ∀ key, name = start ++ key → Schema.lookup? key = none) :
    ∀ fault, ¬ Fails start (name, raw) fault := by
  rintro fault ⟨key, spec, same, listed, -⟩
  cases listed.symm.trans (other key same)

theorem fails_iff (listed : Schema.lookup? key = some spec) {fault : ConfigError} :
    Fails start (start ++ key, raw) fault ↔ spec.parseRaw raw = .error fault := by
  constructor
  · rintro ⟨key', spec', same, listed', failed⟩
    have named : key = key' := String.append_right_inj _ |>.mp same
    subst named
    cases listed.symm.trans listed'
    exact failed
  · exact fun failed => ⟨key, spec, rfl, listed, failed⟩

end Steps

section Walk

theorem Yields.ofOverrides {assigned : List (String × Value)}
    (yields : Yields start environment assigned) :
    ofOverrides start environment = .ok ⟨assigned⟩ := by
  induction yields with
  | nil => rfl
  | other other tail ih => rw [ofOverrides_other other, ih]
  | override listed read tail ih => rw [ofOverrides_override listed, read, ok_bind, ih, ok_bind]

theorem ofOverrides_eq_ok_iff {declaration : Declaration} :
    ofOverrides start environment = .ok declaration ↔
      Yields start environment declaration.assignments := by
  constructor
  · intro success
    induction environment generalizing declaration with
    | nil =>
      cases success
      exact .nil
    | cons var rest ih =>
      obtain ⟨name, raw⟩ := var
      rcases overridden?_or start name with other | ⟨key, spec, rfl, listed⟩
      · rw [ofOverrides_other other] at success
        exact .other other (ih success)
      · rw [ofOverrides_override listed] at success
        obtain ⟨value, read, success⟩ := bind_eq_ok_iff.mp success
        obtain ⟨held, tail, same⟩ := bind_eq_ok_iff.mp success
        cases same
        exact .override listed read (ih tail)
  · exact Yields.ofOverrides

theorem ofOverrides_eq_error_iff {fault : ConfigError} :
    ofOverrides start environment = .error fault ↔ FirstFault start environment fault := by
  constructor
  · intro failed
    induction environment with
    | nil => cases failed
    | cons var rest ih =>
      obtain ⟨name, raw⟩ := var
      rcases overridden?_or start name with other | ⟨key, spec, rfl, listed⟩
      · rw [ofOverrides_other other] at failed
        exact .later (passes_of_other other) (ih failed)
      · rw [ofOverrides_override listed] at failed
        rcases bind_eq_error_iff.mp failed with failed | ⟨value, read, failed⟩
        · exact .here ((fails_iff listed).mpr failed)
        · apply FirstFault.later
          · intro other fails
            cases read.symm.trans ((fails_iff listed).mp fails)
          · exact ih ((bind_eq_error_iff_of_rest fun _ => ⟨_, rfl⟩).mp failed)
  · intro first
    induction first with
    | @here var rest fault fails =>
      obtain ⟨name, raw⟩ := var
      obtain ⟨key, spec, rfl, listed, failed⟩ := fails
      rw [ofOverrides_override listed, failed, error_bind]
    | @later var rest fault passes tail ih =>
      obtain ⟨name, raw⟩ := var
      rcases overridden?_or start name with other | ⟨key, spec, rfl, listed⟩
      · rw [ofOverrides_other other, ih]
      · rw [ofOverrides_override listed]
        rcases ok_or_error (spec.parseRaw raw) with ⟨value, read⟩ | ⟨other, failed⟩
        · rw [read, ok_bind, ih, error_bind]
        · exact absurd ((fails_iff listed).mpr failed) (passes other)

theorem FirstFault.exists_fails {fault : ConfigError} (first : FirstFault start environment fault) :
    ∃ var ∈ environment, Fails start var fault := by
  induction first with
  | here fails => exact ⟨_, List.mem_cons_self, fails⟩
  | later passes tail ih =>
    obtain ⟨var, member, fails⟩ := ih
    exact ⟨var, List.mem_cons_of_mem _ member, fails⟩

theorem exists_firstFault {var : String × String} {fault : ConfigError}
    (member : var ∈ environment) (fails : Fails start var fault) :
    ∃ first, FirstFault start environment first := by
  induction environment with
  | nil => cases member
  | cons head rest ih =>
    by_cases passes : ∀ other, ¬ Fails start head other
    · rcases List.mem_cons.mp member with rfl | later
      · exact absurd fails (passes fault)
      · obtain ⟨first, tail⟩ := ih later
        exact ⟨first, .later passes tail⟩
    · push Not at passes
      obtain ⟨first, fails⟩ := passes
      exact ⟨first, .here fails⟩

/-- An environment is accepted when none of its variables fails. -/
theorem exists_ofOverrides_iff : (∃ declaration, ofOverrides start environment = .ok declaration) ↔
    ∀ var ∈ environment, ∀ fault, ¬ Fails start var fault := by
  constructor
  · rintro ⟨declaration, success⟩ var member fault fails
    obtain ⟨first, failed⟩ := exists_firstFault member fails
    cases success.symm.trans (ofOverrides_eq_error_iff.mpr failed)
  · intro passes
    rcases ok_or_error (ofOverrides start environment) with success | ⟨fault, failed⟩
    · exact success
    · obtain ⟨var, member, fails⟩ := (ofOverrides_eq_error_iff.mp failed).exists_fails
      exact absurd fails (passes var member fault)

theorem passes_iff : (∀ var ∈ environment, ∀ fault, ¬ Fails start var fault) ↔
    ∀ key spec raw, Schema.lookup? key = some spec → (start ++ key, raw) ∈ environment →
      ∃ value, spec.parseRaw raw = .ok value := by
  constructor
  · intro passes key spec raw listed member
    rcases ok_or_error (spec.parseRaw raw) with success | ⟨fault, failed⟩
    · exact success
    · exact absurd ((fails_iff listed).mpr failed) (passes _ member fault)
  · rintro reads ⟨name, raw⟩ member fault ⟨key, spec, rfl, listed, failed⟩
    obtain ⟨value, read⟩ := reads key spec raw listed member
    cases read.symm.trans failed

theorem Yields.mem_of_reads {assigned : List (String × Value)}
    (yields : Yields start environment assigned) {key raw : String} {spec : KeySpec} {value : Value}
    (listed : Schema.lookup? key = some spec) (member : (start ++ key, raw) ∈ environment)
    (read : spec.parseRaw raw = .ok value) : (key, value) ∈ assigned := by
  induction yields with
  | nil => cases member
  | other other tail ih =>
    rcases List.mem_cons.mp member with same | later
    · cases same
      cases listed.symm.trans (other key rfl)
    · exact ih later
  | @override key' raw' spec' value' rest assigned listed' read' tail ih =>
    rcases List.mem_cons.mp member with same | later
    · obtain ⟨named, rfl⟩ := Prod.mk.inj same
      obtain rfl : key = key' := (String.append_right_inj start).mp named
      cases listed.symm.trans listed'
      cases read.symm.trans read'
      exact List.mem_cons_self
    · exact List.mem_cons_of_mem _ (ih later)

end Walk

section Order

variable {other : List (String × String)} {declaration declaration' : Declaration}

theorem mem_assignments_iff (read : ofOverrides start environment = .ok declaration)
    (pair : String × Value) : pair ∈ declaration.assignments ↔
      ∃ spec raw, Schema.lookup? pair.1 = some spec ∧ (start ++ pair.1, raw) ∈ environment ∧
        spec.parseRaw raw = .ok pair.2 := by
  constructor
  · exact mem_ofOverrides read
  · rintro ⟨spec, raw, listed, member, parsed⟩
    exact (ofOverrides_eq_ok_iff.mp read).mem_of_reads listed member parsed

/-- Where each name occurs once, no key is assigned two values. -/
theorem consistent_of_distinct (distinct : (environment.map Prod.fst).Nodup)
    (read : ofOverrides start environment = .ok declaration) : declaration.Consistent := by
  intro key value value' assigned assigned'
  obtain ⟨spec, raw, listed, member, parsed⟩ := mem_ofOverrides read assigned
  obtain ⟨spec', raw', listed', member', parsed'⟩ := mem_ofOverrides read assigned'
  cases listed.symm.trans listed'
  have found := lookup_of_mem distinct member
  cases found.symm.trans (lookup_of_mem distinct member')
  exact Except.ok.inj (parsed.symm.trans parsed')

theorem resolve_of_reordered (distinct : (environment.map Prod.fst).Nodup)
    (order : other.Perm environment) (read : ofOverrides start environment = .ok declaration)
    (read' : ofOverrides start other = .ok declaration') :
    declaration'.resolve = declaration.resolve := by
  apply (consistent_of_distinct distinct read).resolve_eq
  intro pair
  rw [mem_assignments_iff read, mem_assignments_iff read']
  simp only [order.mem_iff]

theorem exists_of_reordered (order : other.Perm environment) :
    (∃ declaration, ofOverrides start other = .ok declaration) ↔
      ∃ declaration, ofOverrides start environment = .ok declaration := by
  rw [exists_ofOverrides_iff, exists_ofOverrides_iff]
  simp only [order.mem_iff]

/-- No two of the variables fail. -/
def FailsOnce (start : String) (environment : List (String × String)) : Prop :=
  ∀ first ∈ environment, ∀ second ∈ environment, ∀ fault fault',
    Fails start first fault → Fails start second fault' → first = second

theorem Fails.unique {var : String × String} {fault fault' : ConfigError}
    (fails : Fails start var fault) (fails' : Fails start var fault') : fault = fault' := by
  obtain ⟨name, raw⟩ := var
  obtain ⟨key, spec, rfl, listed, failed⟩ := fails
  exact Except.error.inj (failed.symm.trans ((fails_iff listed).mp fails'))

theorem FailsOnce.firstFault_iff (once : FailsOnce start environment) {fault : ConfigError} :
    FirstFault start environment fault ↔ ∃ var ∈ environment, Fails start var fault := by
  constructor
  · exact FirstFault.exists_fails
  · rintro ⟨var, member, fails⟩
    obtain ⟨first, failed⟩ := exists_firstFault member fails
    obtain ⟨var', member', fails'⟩ := failed.exists_fails
    obtain rfl := once var member var' member' _ _ fails fails'
    exact fails.unique fails' ▸ failed

theorem FailsOnce.error_of_reordered (once : FailsOnce start environment)
    (order : other.Perm environment) (fault : ConfigError) :
    ofOverrides start other = .error fault ↔ ofOverrides start environment = .error fault := by
  have once' : FailsOnce start other := by
    intro first member second member'
    exact once first (order.mem_iff.mp member) second (order.mem_iff.mp member')
  rw [ofOverrides_eq_error_iff, ofOverrides_eq_error_iff, once.firstFault_iff, once'.firstFault_iff]
  simp only [order.mem_iff]

end Order

/-- An environment is accepted when the text of each variable that is named for a key is, and then it
makes these assignments in the order of the variables; otherwise the first failing variable decides
the fault. In another order of the variables an environment is accepted as well or refused as well,
with the same fault if just one variable fails, and once accepted it makes the same stores. -/
theorem ofOverrides_order (start : String) (environment : List (String × String)) :
    ((∃ declaration, ofOverrides start environment = .ok declaration) ↔
      ∀ key spec raw, Schema.lookup? key = some spec → (start ++ key, raw) ∈ environment →
        ∃ value, spec.parseRaw raw = .ok value) ∧
    (∀ declaration, ofOverrides start environment = .ok declaration ↔
      Yields start environment declaration.assignments) ∧
    (∀ fault, ofOverrides start environment = .error fault ↔
      FirstFault start environment fault) ∧
    ((environment.map Prod.fst).Nodup → ∀ other : List (String × String), other.Perm environment →
      ((∃ declaration, ofOverrides start other = .ok declaration) ↔
        ∃ declaration, ofOverrides start environment = .ok declaration) ∧
      (FailsOnce start environment → ∀ fault, ofOverrides start other = .error fault ↔
        ofOverrides start environment = .error fault) ∧
      ∀ declaration declaration', ofOverrides start environment = .ok declaration →
        ofOverrides start other = .ok declaration' →
        declaration'.resolve = declaration.resolve ∧
        ∀ blueprint : Blueprint,
          (blueprint.overlay declaration').build = (blueprint.overlay declaration).build ∧
          ∀ order, ((blueprint.overlay declaration').Enumeration order ↔
              (blueprint.overlay declaration).Enumeration order) ∧
            (blueprint.overlay declaration').buildIn order =
              (blueprint.overlay declaration).buildIn order) := by
  refine ⟨exists_ofOverrides_iff.trans passes_iff, fun declaration => ofOverrides_eq_ok_iff,
    fun fault => ofOverrides_eq_error_iff, ?_⟩
  intro distinct other order
  refine ⟨exists_of_reordered order, fun once fault => once.error_of_reordered order fault, ?_⟩
  intro declaration declaration' read read'
  have same := resolve_of_reordered distinct order read read'
  refine ⟨same, fun blueprint => ⟨Blueprint.build_overlay_congr same, fun enumeration => ⟨?_, ?_⟩⟩⟩
  · exact Blueprint.enumeration_overlay_congr same
  · rw [Blueprint.buildIn_overlay, Blueprint.buildIn_overlay]

/-- Two variables that override and one that does not. -/
def crewEnvironment : List (String × String) :=
  [("NIMBUS_WORKER_NUM", "4"), ("HOME", "/root"), ("NIMBUS_PLACEMENT_GROUP", "none")]

theorem ofOverrides_crew : ∃ declaration declaration',
    ofOverrides "NIMBUS_" crewEnvironment = .ok declaration ∧
    ofOverrides "NIMBUS_" crewEnvironment.reverse = .ok declaration' ∧
    declaration ≠ declaration' ∧ declaration'.resolve = declaration.resolve := by
  have read : ofOverrides "NIMBUS_" crewEnvironment =
      .ok ⟨[("WORKER_NUM", .integer 4), ("PLACEMENT_GROUP", .null)]⟩ := rfl
  have read' : ofOverrides "NIMBUS_" crewEnvironment.reverse =
      .ok ⟨[("PLACEMENT_GROUP", .null), ("WORKER_NUM", .integer 4)]⟩ := rfl
  obtain ⟨-, -, -, reordered⟩ := ofOverrides_order "NIMBUS_" crewEnvironment
  obtain ⟨-, -, same⟩ := reordered (by decide) _ (List.reverse_perm crewEnvironment)
  exact ⟨_, _, read, read', by decide, (same _ _ read read').1⟩

end LaunchConfig.Declaration
