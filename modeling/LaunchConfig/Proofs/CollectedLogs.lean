import LaunchConfig.Proofs.Validation

/-!
Where log files are collected. The name of a log file is one part of a path, so joining it puts it
behind the output path as it is. Two paths with different texts may still lead to one place, because
a dot or a repeated separator leads nowhere; of the collected files this is true of none.
-/
namespace LaunchConfig

namespace Text

theorem parts_append_cons (separator : Char) (before after : List Char) :
    parts separator (before ++ separator :: after) =
      parts separator before ++ parts separator after := by
  simp only [parts_eq_splitOn, List.splitOn_append_cons_self]

theorem parts_of_free {separator : Char} {cs : List Char} (free : separator ∉ cs) :
    parts separator cs = [cs] := by
  rw [parts_eq_splitOn, List.splitOn_eq_singleton free]

theorem head?_parts_append_cons (separator : Char) (before after : List Char) :
    (parts separator (before ++ separator :: after)).head? = (parts separator before).head? := by
  have some_ : parts separator before ≠ [] := by
    rw [parts_eq_splitOn]
    exact List.splitOn_ne_nil separator before
  rw [parts_append_cons, List.head?_append_of_ne_nil _ some_]

end Text

namespace Path

/-- One step along a path. -/
inductive Component
  | root
  | here
  | parent
  | entry (name : List Char)
  deriving DecidableEq

/-- The step that a part of a path stands for. An empty part and a dot stand for none. -/
def component? (part : List Char) : Option Component :=
  if part = [] ∨ part = ['.'] then none
  else if part = ['.', '.'] then some .parent
  else some (.entry part)

/-- The step before all parts. This is the only place where a dot is kept. -/
def origin? (path : List Char) : Option Component :=
  if isAbsolute path then some .root
  else if (Text.parts separator path).head? = some ['.'] then some .here
  else none

/-- The steps along a path. -/
def components (path : List Char) : List Component :=
  (origin? path).toList ++ (Text.parts separator path).filterMap component?

/-- Two paths lead to one place by the same steps. -/
def Same (left right : String) : Prop :=
  components left.toList = components right.toList

/-- The part, not empty, that stands for a step or for none. -/
def part : Option Component → List Char
  | none => ['.']
  | some .parent => ['.', '.']
  | some (.entry name) => name
  | some .root => ['/']
  | some .here => ['.']

theorem part_component? {text : List Char} (some_ : text ≠ []) :
    part (component? text) = text := by
  unfold component?
  split
  next nothing => exact (nothing.resolve_left some_).symm
  next =>
    split
    next dots => exact dots.symm
    next => rfl

theorem isAbsolute_append {front : List Char} (some_ : front ≠ []) (rest : List Char) :
    isAbsolute (front ++ rest) = isAbsolute front := by
  rw [isAbsolute, isAbsolute, List.head?_append_of_ne_nil front some_]

theorem isAbsolute_of_free {name : List Char} (free : separator ∉ name) :
    isAbsolute name = false := by
  refine decide_eq_false fun starts => ?_
  exact free (List.mem_of_mem_head? starts)

/-- A separator at the end leads nowhere. -/
theorem components_append_separator {directory : List Char} (some_ : directory ≠ []) :
    components (directory ++ [separator]) = components directory := by
  have origin : origin? (directory ++ [separator]) = origin? directory := by
    rw [origin?, origin?, isAbsolute_append some_, Text.head?_parts_append_cons]
  rw [components, components, origin, Text.parts_append_cons, List.filterMap_append]
  simp [Text.parts, component?]

theorem components_append_cons (front rest : List Char) :
    components (front ++ separator :: rest) =
      components (front ++ [separator]) ++ (Text.parts separator rest).filterMap component? := by
  have starts : isAbsolute (front ++ separator :: rest) = isAbsolute (front ++ [separator]) := by
    cases front <;> rfl
  have origin : origin? (front ++ separator :: rest) = origin? (front ++ [separator]) := by
    rw [origin?, origin?, starts, Text.head?_parts_append_cons, Text.head?_parts_append_cons]
  rw [components, components, origin, Text.parts_append_cons, Text.parts_append_cons]
  simp [Text.parts, component?]

/-- Whatever is joined to a directory stands behind the same separator. -/
theorem exists_front {directory : List Char} (some_ : directory ≠ []) :
    ∃ front, ∀ name, directory ++ gap directory ++ name = front ++ separator :: name := by
  by_cases ends : directory.getLast? = some separator
  · obtain ⟨front, rfl⟩ := List.getLast?_eq_some_iff.mp ends
    exact ⟨front, fun name => by simp [gap]⟩
  · exact ⟨directory, fun name => by simp [gap, some_, ends]⟩

theorem components_gap {directory : List Char} (some_ : directory ≠ []) :
    components (directory ++ gap directory) = components directory := by
  unfold gap
  split
  · rw [List.append_nil]
  · exact components_append_separator some_

/-- A file of a directory is one step further, unless it is called by a dot. -/
theorem components_join {directory name : String} (some_ : directory.toList ≠ [])
    (free : separator ∉ name.toList) : components (join directory name).toList =
      components directory.toList ++ (component? name.toList).toList := by
  obtain ⟨front, split⟩ := exists_front some_
  have closed : directory.toList ++ gap directory.toList = front ++ [separator] := by
    simpa using split []
  rw [toList_join_of_relative (isAbsolute_of_free free), split, components_append_cons, ← closed,
    components_gap some_, Text.parts_of_free free]
  cases step : component? name.toList <;> simp [step]

end Path

namespace LogFiles

open LaunchConfig.Path

theorem Valid.outputPath_ne_nil {logs : LogFiles} (valid : logs.Valid) :
    logs.outputPath.toList ≠ [] := by
  obtain ⟨c, member, -⟩ := valid.outputPath
  exact List.ne_nil_of_mem member

theorem Valid.name_ne_nil {logs : LogFiles} (valid : logs.Valid) {name : String}
    (listed : name ∈ logs.names) : name.toList ≠ [] := by
  obtain ⟨c, member, -⟩ := (valid.names name listed).1
  exact List.ne_nil_of_mem member

theorem Valid.collectedPath_eq {logs : LogFiles} (valid : logs.Valid) {name : String}
    (listed : name ∈ logs.names) : logs.collectedPath name =
      logs.outputPath ++ (if logs.outputPath.toList.getLast? = some '/' then "" else "/") ++ name := by
  have free := (valid.names name listed).2
  have slash : "/".toList = ['/'] := rfl
  apply String.toList_injective
  rw [collectedPath, toList_join_of_relative (isAbsolute_of_free free), String.toList_append,
    String.toList_append]
  by_cases ends : logs.outputPath.toList.getLast? = some '/'
  · simp [gap, separator, ends]
  · simp [gap, separator, ends, valid.outputPath_ne_nil, slash]

theorem Valid.exists_front {logs : LogFiles} (valid : logs.Valid) {name : String}
    (listed : name ∈ logs.names) :
    ∃ front, (logs.collectedPath name).toList = front ++ '/' :: name.toList := by
  have free := (valid.names name listed).2
  obtain ⟨front, split⟩ := Path.exists_front valid.outputPath_ne_nil
  refine ⟨front, ?_⟩
  rw [collectedPath, toList_join_of_relative (isAbsolute_of_free free), split]
  rfl

theorem Valid.collectedPath_eq_iff {logs : LogFiles} (valid : logs.Valid) {name other : String}
    (listed : name ∈ logs.names) (listed' : other ∈ logs.names) :
    logs.collectedPath name = logs.collectedPath other ↔ name = other := by
  rw [valid.collectedPath_eq listed, valid.collectedPath_eq listed']
  exact String.append_right_inj _

theorem Valid.components_collectedPath {logs : LogFiles} (valid : logs.Valid) {name : String}
    (listed : name ∈ logs.names) : components (logs.collectedPath name).toList =
      components logs.outputPath.toList ++ (component? name.toList).toList :=
  components_join valid.outputPath_ne_nil (valid.names name listed).2

theorem Valid.same_iff {logs : LogFiles} (valid : logs.Valid) {name other : String}
    (listed : name ∈ logs.names) (listed' : other ∈ logs.names) :
    Same (logs.collectedPath name) (logs.collectedPath other) ↔ name = other := by
  constructor
  · intro same
    rw [Same, valid.components_collectedPath listed, valid.components_collectedPath listed'] at same
    have last := congrArg List.head? (List.append_cancel_left same)
    have step : component? name.toList = component? other.toList := by simpa using last
    apply String.toList_injective
    rw [← part_component? (valid.name_ne_nil listed), step,
      part_component? (valid.name_ne_nil listed')]
  · rintro rfl
    rfl

/-- Where the rules of the section hold, each file is collected under the output path, which is never
replaced: its path is the output path, a separator if that does not end with one, and the name of the
file, which is then all that stands behind the last separator. Two of the files are collected in one
place, by the text of their paths or by their steps, exactly when they have one name. -/
theorem collected_of_valid (logs : LogFiles) (accepted : logs.validate = .ok ()) :
    (∀ name ∈ logs.names,
      logs.collectedPath name =
        logs.outputPath ++ (if logs.outputPath.toList.getLast? = some '/' then "" else "/") ++ name ∧
      (∃ front, (logs.collectedPath name).toList = front ++ '/' :: name.toList) ∧
      '/' ∉ name.toList ∧
      components (logs.collectedPath name).toList =
        components logs.outputPath.toList ++ (component? name.toList).toList) ∧
    ∀ name ∈ logs.names, ∀ other ∈ logs.names,
      (logs.collectedPath name = logs.collectedPath other ↔ name = other) ∧
      (Same (logs.collectedPath name) (logs.collectedPath other) ↔ name = other) := by
  have valid := validate_eq_ok_iff.mp accepted
  constructor
  · intro name listed
    exact ⟨valid.collectedPath_eq listed, valid.exists_front listed, (valid.names name listed).2,
      valid.components_collectedPath listed⟩
  · intro name listed other listed'
    exact ⟨valid.collectedPath_eq_iff listed listed', valid.same_iff listed listed'⟩

/-- Files collected at the top, some of them under names with dots. -/
def scattered : LogFiles where
  standardOutput := "."
  loadBalancer := ".."
  schedulerStatistics := " stats "
  workerBalancer := "lb_log.txt"
  workerFinal := "lb_log.txt"
  workerStatistics := "..."
  outputPath := "/"

theorem collected_of_scattered : scattered.validate = .ok () ∧
    ".." ∈ scattered.names ∧ "lb_log.txt" ∈ scattered.names ∧
    scattered.collectedPath ".." = "/.." ∧
    ¬ Same (scattered.collectedPath "..") (scattered.collectedPath "lb_log.txt") := by
  have accepted : scattered.validate = .ok () := by decide +kernel
  have up : ".." ∈ scattered.names := by decide
  have log : "lb_log.txt" ∈ scattered.names := by decide
  obtain ⟨under, apart⟩ := collected_of_valid scattered accepted
  obtain ⟨path, -⟩ := under ".." up
  refine ⟨accepted, up, log, path.trans (by decide), fun same => ?_⟩
  exact absurd ((apart ".." up "lb_log.txt" log).2.mp same) (by decide)

end LogFiles

end LaunchConfig
