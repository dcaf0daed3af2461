import LaunchConfig.Text.Blank
import LaunchConfig.Text.Hex
import Mathlib.Data.List.TakeWhile

/-!
Trimming and cutting texts. Trimming takes blanks from both ends and nothing else; a text is cut at
the first separator, and it is not cut when it has none. The number of a character names it.
-/
namespace LaunchConfig.Text

theorem exists_trimmed (cs : List Char) : ∃ before after,
    cs = before ++ trimChars cs ++ after ∧ ∀ c ∈ before ++ after, isBlank c = true := by
  have front := List.takeWhile_append_dropWhile (p := isBlank) (l := cs)
  have back := List.takeWhile_append_dropWhile (p := isBlank) (l := (cs.dropWhile isBlank).reverse)
  have rest := congrArg List.reverse back
  rw [List.reverse_append, List.reverse_reverse] at rest
  refine ⟨cs.takeWhile isBlank, ((cs.dropWhile isBlank).reverse.takeWhile isBlank).reverse, ?_, ?_⟩
  · rw [trimChars, List.append_assoc, rest, front]
  · intro c member
    rcases List.mem_append.mp member with before | after
    · exact List.mem_takeWhile_imp before
    · exact List.mem_takeWhile_imp (List.mem_reverse.mp after)

theorem dropWhile_padded {skips : Char → Bool} {pad cs : List Char}
    (padded : ∀ c ∈ pad, skips c = true) (starts : ∀ c, cs.head? = some c → skips c = false) :
    (pad ++ cs).dropWhile skips = cs := by
  rw [List.dropWhile_append_of_pos padded]
  cases cs with
  | nil => rfl
  | cons c rest => rw [List.dropWhile_cons_of_neg (by simp [starts c rfl])]

theorem trimChars_padded {before cs after : List Char}
    (blank : ∀ c ∈ before ++ after, isBlank c = true) (visible : ∀ c ∈ cs, isBlank c = false) :
    trimChars (before ++ cs ++ after) = cs := by
  obtain ⟨front, back⟩ := List.forall_mem_append.mp blank
  cases cs with
  | nil =>
    have nothing : (before ++ [] ++ after).dropWhile isBlank = [] :=
      List.dropWhile_eq_nil_iff.mpr (by simpa using blank)
    rw [trimChars, nothing]
    rfl
  | cons c rest =>
    have first : ∀ d, (c :: rest ++ after).head? = some d → isBlank d = false := by
      rintro d ⟨⟩
      exact visible c List.mem_cons_self
    have last : ∀ d, (c :: rest).reverse.head? = some d → isBlank d = false := fun d ends =>
      visible d (List.mem_reverse.mp (List.mem_of_mem_head? ends))
    rw [trimChars, List.append_assoc, dropWhile_padded front first, List.reverse_append,
      dropWhile_padded (fun d member => back d (List.mem_reverse.mp member)) last,
      List.reverse_reverse]

theorem trimChars_eq_self {cs : List Char} (visible : ∀ c ∈ cs, isBlank c = false) :
    trimChars cs = cs := by
  have noPad : ∀ c ∈ ([] ++ [] : List Char), isBlank c = true := by simp
  simpa using trimChars_padded noPad visible

/-- A text without the blanks at both of its ends, and with nothing else left out. -/
structure Trims (whole core : List Char) : Prop where
  padded : ∃ before after, whole = before ++ core ++ after ∧
    ∀ c ∈ before ++ after, isBlank c = true
  starts : ∀ c, core.head? = some c → isBlank c = false
  ends : ∀ c, core.getLast? = some c → isBlank c = false

theorem head?_dropWhile {skips : Char → Bool} (cs : List Char) {c : Char}
    (starts : (cs.dropWhile skips).head? = some c) : skips c = false := by
  have kept := List.head?_dropWhile_not skips cs
  rwa [starts] at kept

theorem trims_trimChars (cs : List Char) : Trims cs (trimChars cs) := by
  refine ⟨exists_trimmed cs, ?_, ?_⟩
  · intro c starts
    apply head?_dropWhile cs
    -- What is left begins where the blanks in front end.
    have start : trimChars cs <+: cs.dropWhile isBlank := by
      rw [← List.reverse_suffix, trimChars, List.reverse_reverse]
      exact List.dropWhile_suffix isBlank
    obtain ⟨rest, whole⟩ := start
    rw [← whole, List.head?_append, starts]
    rfl
  · intro c ends
    apply head?_dropWhile (cs.dropWhile isBlank).reverse
    rwa [trimChars, List.getLast?_reverse] at ends

theorem cut?_eq_none_iff {separator : Char} {cs : List Char} :
    cut? separator cs = none ↔ separator ∉ cs := by
  induction cs with
  | nil => simp [cut?]
  | cons c rest ih =>
    by_cases same : c = separator
    · simp [cut?, same]
    · simp [cut?, same, Ne.symm same, ih]

/-- A text is cut at its first separator. -/
theorem cut?_eq_some_iff {separator : Char} {cs before behind : List Char} :
    cut? separator cs = some (before, behind) ↔
      cs = before ++ separator :: behind ∧ separator ∉ before := by
  induction cs generalizing before with
  | nil => simp [cut?]
  | cons c rest ih =>
    by_cases same : c = separator
    · subst same
      cases before with
      | nil => simp [cut?]
      | cons d before =>
        simp only [cut?, if_true, Option.some.injEq, Prod.mk.injEq, List.nil_eq, reduceCtorEq,
          false_and, List.cons_append, List.cons.injEq, false_iff, not_and]
        rintro ⟨rfl, -⟩ free
        exact free List.mem_cons_self
    · cases before with
      | nil => simp [cut?, same]
      | cons d before =>
        simp only [cut?, same, if_false, Option.map_eq_some_iff, Prod.mk.injEq, Prod.exists,
          List.cons.injEq, List.cons_append, List.mem_cons, not_or]
        constructor
        · rintro ⟨start, stop, split, ⟨rfl, rfl⟩, rfl⟩
          obtain ⟨whole, free⟩ := ih.mp split
          exact ⟨⟨rfl, whole⟩, Ne.symm same, free⟩
        · rintro ⟨⟨rfl, whole⟩, -, free⟩
          exact ⟨before, behind, ih.mpr ⟨whole, free⟩, ⟨rfl, rfl⟩, rfl⟩

theorem scalar?_toNat (c : Char) : scalar? c.toNat = some c := by
  have valid : c.toNat.isValidChar := c.valid
  simp [scalar?, valid]

end LaunchConfig.Text
