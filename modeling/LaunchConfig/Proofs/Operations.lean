import LaunchConfig.Declaration.Operation
import LaunchConfig.Proofs.Blueprint

/-!
Declarations that are built up operation by operation. Starting over forgets what came before, and
every other operation adds to the end or, when its text has a fault, changes nothing. So a run lists
what the operations from the last start over on bring, one after the other, and of each key the last
value in that list counts. Of a text with a fault nothing remains, not even what stands before it.
-/
namespace LaunchConfig.Declaration

theorem merge_assoc (first second third : Declaration) :
    (first.merge second).merge third = first.merge (second.merge third) :=
  congrArg mk (List.append_assoc ..)

theorem empty_merge (declaration : Declaration) : empty.merge declaration = declaration := rfl

theorem merge_empty (declaration : Declaration) : declaration.merge empty = declaration :=
  congrArg mk (List.append_nil _)

/-- A declaration with these assignments, in this order. Of each key the last one counts. -/
structure Comprises (declaration : Declaration) (listed : List (String × Value)) : Prop where
  assignments : declaration.assignments = listed
  size : declaration.size = listed.length
  last : ∀ key value, declaration.resolve.get? key = some value ↔ ∃ before after,
    listed = before ++ (key, value) :: after ∧ key ∉ after.map Prod.fst
  keys : ∀ key, key ∈ declaration.resolve.keys ↔ key ∈ listed.map Prod.fst

theorem comprises_assignments (declaration : Declaration) :
    declaration.Comprises declaration.assignments where
  assignments := rfl
  size := rfl
  last key value := by rw [get?_resolve, value?_eq_some_iff]
  keys key := by
    rw [KeyMap.mem_keys_iff, get?_resolve, value?, lookup_isSome_iff_mem, List.map_reverse,
      List.mem_reverse]

namespace Operation

/-- A declaration before and after an operation. A text with a fault leaves it as it is. -/
inductive Step (declaration : Declaration) : Operation → Declaration → Prop
  | set (key : String) (value : Value) :
      Step declaration (.set key value) (declaration.set key value)
  | merge (other : Declaration) : Step declaration (.merge other) (declaration.merge other)
  | toml {source : String} {part : Declaration} (read : ofToml source = .ok part) :
      Step declaration (.mergeToml source) (declaration.merge part)
  | tomlFault {source : String} {fault : ConfigError} (failed : ofToml source = .error fault) :
      Step declaration (.mergeToml source) declaration
  | overrides {start : String} {environment : List (String × String)} {part : Declaration}
      (read : ofOverrides start environment = .ok part) :
      Step declaration (.mergeOverrides start environment) (declaration.merge part)
  | overridesFault {start : String} {environment : List (String × String)} {fault : ConfigError}
      (failed : ofOverrides start environment = .error fault) :
      Step declaration (.mergeOverrides start environment) declaration
  | restart : Step declaration .restart manifest

variable {operation : Operation} {declaration next part : Declaration} {fault : ConfigError}

theorem perform_of_ok (continues : operation ≠ .restart)
    (brings : operation.contribution = .ok part) :
    operation.perform declaration = declaration.merge part := by
  cases operation with
  | restart => exact absurd rfl continues
  | set _ _ | merge _ | mergeToml _ | mergeOverrides _ _ => simp only [perform, brings]

theorem perform_of_error (failed : operation.contribution = .error fault) :
    operation.perform declaration = declaration := by
  cases operation with
  | restart => cases failed
  | set _ _ | merge _ | mergeToml _ | mergeOverrides _ _ => simp only [perform, failed]

theorem step_perform (operation : Operation) (declaration : Declaration) :
    Step declaration operation (operation.perform declaration) := by
  cases operation with
  | set key value => exact .set key value
  | merge other => exact .merge other
  | mergeToml source =>
    cases brings : contribution (.mergeToml source) with
    | ok part => rw [perform_of_ok (by simp) brings]; exact .toml brings
    | error fault => rw [perform_of_error brings]; exact .tomlFault brings
  | mergeOverrides start environment =>
    cases brings : contribution (.mergeOverrides start environment) with
    | ok part => rw [perform_of_ok (by simp) brings]; exact .overrides brings
    | error fault => rw [perform_of_error brings]; exact .overridesFault brings
  | restart => exact .restart

theorem step_iff : Step declaration operation next ↔ operation.perform declaration = next := by
  constructor
  · intro step
    cases step with
    | set key value => rfl
    | merge other => rfl
    | toml read => exact perform_of_ok (by simp) read
    | tomlFault failed => exact perform_of_error failed
    | overrides read => exact perform_of_ok (by simp) read
    | overridesFault failed => exact perform_of_error failed
    | restart => rfl
  · rintro rfl
    exact step_perform operation declaration

/-- The assignments of a text that was read, or none if it has a fault. -/
def assignmentsOf : Except ConfigError Declaration → List (String × Value)
  | .ok part => part.assignments
  | .error _ => []

/-- The assignments that an operation brings. -/
def brought : Operation → List (String × Value)
  | set key value => [(key, value)]
  | merge other => other.assignments
  | mergeToml source => assignmentsOf (ofToml source)
  | mergeOverrides start environment => assignmentsOf (ofOverrides start environment)
  | restart => manifest.assignments

theorem Step.assignments_eq (step : Step declaration operation next)
    (continues : operation ≠ .restart) :
    next.assignments = declaration.assignments ++ operation.brought := by
  cases step with
  | set key value => rfl
  | merge other => rfl
  | toml read | overrides read => simp [brought, read, assignmentsOf, Declaration.merge]
  | tomlFault failed | overridesFault failed => simp [brought, failed, assignmentsOf]
  | restart => exact absurd rfl continues

/-- The operations that a run still shows: all of them, or those from the last start over on. -/
inductive Recent : List Operation → List Operation → Prop
  | all {operations : List Operation} (never : restart ∉ operations) : Recent operations operations
  | since (before : List Operation) {after : List Operation} (never : restart ∉ after) :
      Recent (before ++ restart :: after) (restart :: after)

theorem exists_recent (operations : List Operation) : ∃ recent, Recent operations recent := by
  induction operations with
  | nil => exact ⟨[], .all (by simp)⟩
  | cons operation rest ih =>
    obtain ⟨recent, shown⟩ := ih
    cases shown with
    | all never =>
      by_cases anew : restart = operation
      · subst anew
        exact ⟨_, .since [] never⟩
      · exact ⟨_, .all (by simp [anew, never])⟩
    | since before never => exact ⟨_, .since (operation :: before) never⟩

variable {earlier later operations recent : List Operation}

theorem run_concat (operations : List Operation) (operation : Operation) :
    run (operations ++ [operation]) = operation.perform (run operations) := by
  simp [run]

-- By induction on the later operations: the first of them adds to what the earlier ones left.
theorem assignments_run_append (earlier : List Operation) (never : restart ∉ later) :
    (run (earlier ++ later)).assignments =
      (run earlier).assignments ++ later.flatMap brought := by
  induction later generalizing earlier with
  | nil => simp
  | cons operation rest ih =>
    obtain ⟨continues, never⟩ : restart ≠ operation ∧ restart ∉ rest := by simpa using never
    have step := step_perform operation (run earlier)
    rw [List.append_cons, ih _ never, run_concat, step.assignments_eq continues.symm,
      List.flatMap_cons, List.append_assoc]

theorem Recent.assignments_run (shown : Recent operations recent) :
    (run operations).assignments = recent.flatMap brought := by
  cases shown with
  | all never => exact assignments_run_append [] never
  | @since before after never =>
    have anew : run (before ++ [restart]) = manifest := run_concat before restart
    have added := assignments_run_append (before ++ [restart]) never
    rw [anew, List.append_assoc] at added
    exact added

/-- Without a start over, a second run adds to the first. -/
theorem run_append_of_never (earlier : List Operation) (never : restart ∉ later) :
    run (earlier ++ later) = (run earlier).merge (run later) := by
  have own := (Recent.all never).assignments_run
  exact congrArg mk ((assignments_run_append earlier never).trans (by rw [own]))

theorem run_append_of_restart (earlier : List Operation) (anew : restart ∈ later) :
    run (earlier ++ later) = run later := by
  obtain ⟨recent, shown⟩ := exists_recent later
  cases shown with
  | all never => exact absurd anew never
  | @since before after never =>
    have whole := (Recent.since (earlier ++ before) never).assignments_run
    have own := (Recent.since before never).assignments_run
    rw [List.append_assoc] at whole
    exact congrArg mk (whole.trans own.symm)

/-- Resolution goes along with every run of operations. From an empty declaration each operation
does its step, and the run comprises what the operations from the last start over on bring; the last
value of each key counts. A continued run is the merge of both runs, unless the second one starts
over. Merging is associative, and of two merged declarations the values of the second count before
those of the first. -/
theorem resolution_of_run (operations : List Operation) :
    run [] = empty ∧
    (∀ operation next, Step (run operations) operation next ↔
      run (operations ++ [operation]) = next) ∧
    (∃ recent, Recent operations recent) ∧
    (∀ recent, Recent operations recent → (run operations).Comprises (recent.flatMap brought)) ∧
    (∀ later, (restart ∉ later → run (operations ++ later) = (run operations).merge (run later)) ∧
      (restart ∈ later → run (operations ++ later) = run later)) ∧
    (∀ first second third : Declaration,
      (first.merge second).merge third = first.merge (second.merge third)) ∧
    (∀ declaration : Declaration,
      empty.merge declaration = declaration ∧ declaration.merge empty = declaration) ∧
    ∀ (first second : Declaration) (key : String), (first.merge second).resolve.get? key =
      (second.resolve.get? key).or (first.resolve.get? key) := by
  refine ⟨rfl, ?step, exists_recent operations, ?assigned, ?append, merge_assoc, ?unit, ?merged⟩
  case step =>
    intro operation next
    rw [run_concat, step_iff]
  case assigned =>
    intro recent shown
    rw [← shown.assignments_run]
    exact comprises_assignments (run operations)
  case append =>
    intro later
    exact ⟨run_append_of_never operations, run_append_of_restart operations⟩
  case unit =>
    intro declaration
    exact ⟨empty_merge declaration, merge_empty declaration⟩
  case merged =>
    intro first second key
    rw [get?_resolve, get?_resolve, get?_resolve, value?_merge]

-- The first assignment is forgotten, and the text assigns nothing, though it is right at first.
example : run [.set "KEY_NAME" (.text "spare"), .restart, .mergeToml "WORKER_NUM = 8\nPART_X = ",
    .set "WORKER_NUM" (.integer 4)] = manifest.set "WORKER_NUM" (.integer 4) := by
  decide +kernel

end Operation

end LaunchConfig.Declaration
