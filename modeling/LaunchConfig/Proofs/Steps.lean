/-!
Steps that may fail, one after the other. A row of steps succeeds when each of them does; its error
is that of the first step that fails.
-/
namespace LaunchConfig

variable {ε α β : Type}

theorem bind_eq_ok_iff {step : Except ε α} {next : α → Except ε β} {result : β} :
    step >>= next = .ok result ↔ ∃ value, step = .ok value ∧ next value = .ok result := by
  cases step <;> simp [bind, Except.bind]

theorem bind_eq_error_iff {step : Except ε α} {next : α → Except ε β} {fault : ε} :
    step >>= next = .error fault ↔
      step = .error fault ∨ ∃ value, step = .ok value ∧ next value = .error fault := by
  cases step <;> simp [bind, Except.bind]

theorem andThen_eq_ok_iff {first : Except ε Unit} {second : Except ε β} {result : β} :
    (first >>= fun _ => second) = .ok result ↔ first = .ok () ∧ second = .ok result := by
  cases first <;> simp [bind, Except.bind]

theorem exists_bind_eq_ok {step : Except ε α} {next : α → Except ε β}
    (first : ∃ value, step = .ok value) (rest : ∀ value, ∃ result, next value = .ok result) :
    ∃ result, step >>= next = .ok result := by
  obtain ⟨value, rfl⟩ := first
  exact rest value

theorem bind_eq_error_iff_of_first {step : Except ε α} {next : α → Except ε β} {fault : ε}
    {cause : Prop} (first : ∃ value, step = .ok value)
    (rest : ∀ value, next value = .error fault ↔ cause) : step >>= next = .error fault ↔ cause := by
  obtain ⟨value, rfl⟩ := first
  exact rest value

theorem bind_eq_error_iff_of_rest {step : Except ε α} {next : α → Except ε β} {fault : ε}
    (rest : ∀ value, ∃ result, next value = .ok result) :
    step >>= next = .error fault ↔ step = .error fault := by
  rw [bind_eq_error_iff, or_iff_left]
  rintro ⟨value, -, failed⟩
  obtain ⟨result, success⟩ := rest value
  cases success.symm.trans failed

theorem ok_bind (value : α) (next : α → Except ε β) : (Except.ok value >>= next) = next value := rfl

theorem error_bind (fault : ε) (next : α → Except ε β) :
    (Except.error fault >>= next) = .error fault := rfl

theorem mapError_eq_ok_iff {change : ε → β} {step : Except ε α} {value : α} :
    step.mapError change = .ok value ↔ step = .ok value := by
  cases step with
  | ok held =>
    have same : (Except.ok held : Except ε α).mapError change = .ok held := rfl
    rw [same, Except.ok.injEq, Except.ok.injEq]
  | error fault =>
    have same : (Except.error fault : Except ε α).mapError change = .error (change fault) := rfl
    simp only [same, reduceCtorEq]

theorem mapError_eq_error_iff {change : ε → β} {step : Except ε α} {fault : β} :
    step.mapError change = .error fault ↔ ∃ cause, step = .error cause ∧ fault = change cause := by
  cases step with
  | ok held =>
    have same : (Except.ok held : Except ε α).mapError change = .ok held := rfl
    simp [same]
  | error cause =>
    have same : (Except.error cause : Except ε α).mapError change = .error (change cause) := rfl
    simp [same, eq_comm]

theorem toOption_eq_some_iff {step : Except ε α} {value : α} :
    step.toOption = some value ↔ step = .ok value := by
  cases step with
  | ok held =>
    have same : (Except.ok held : Except ε α).toOption = some held := rfl
    simp [same]
  | error fault =>
    have none_ : (Except.error fault : Except ε α).toOption = none := rfl
    simp [none_]

theorem forM_eq_ok_iff {step : α → Except ε Unit} {items : List α} :
    items.forM step = .ok () ↔ ∀ item ∈ items, step item = .ok () := by
  induction items with
  | nil => simp [pure, Except.pure]
  | cons item rest ih => rw [List.forM, andThen_eq_ok_iff, ih, List.forall_mem_cons]

theorem ok_or_error (step : Except ε α) :
    (∃ value, step = .ok value) ∨ ∃ fault, step = .error fault := by
  cases step with
  | ok value => exact Or.inl ⟨value, rfl⟩
  | error fault => exact Or.inr ⟨fault, rfl⟩

theorem mapM_cons_eq (step : α → Except ε β) (item : α) (rest : List α) :
    (item :: rest).mapM step =
      step item >>= fun result => rest.mapM step >>= fun results => .ok (result :: results) := by
  rw [List.mapM_cons]
  rfl

theorem mapM_eq_map {step : α → Except ε β} {change : α → β} {items : List α}
    (changes : ∀ item ∈ items, step item = .ok (change item)) :
    items.mapM step = .ok (items.map change) := by
  induction items with
  | nil => rfl
  | cons item rest ih =>
    have head := changes item List.mem_cons_self
    have tail := ih fun other member => changes other (List.mem_cons_of_mem item member)
    rw [mapM_cons_eq, head, ok_bind, tail, ok_bind, List.map_cons]

theorem step_of_mapM_eq_ok {step : α → Except ε β} {items : List α} {results : List β}
    (success : items.mapM step = .ok results) (item : α) (member : item ∈ items) :
    ∃ result ∈ results, step item = .ok result := by
  induction items generalizing results with
  | nil => simp at member
  | cons head rest ih =>
    rw [mapM_cons_eq] at success
    obtain ⟨first, headOk, success⟩ := bind_eq_ok_iff.mp success
    obtain ⟨others, restOk, same⟩ := bind_eq_ok_iff.mp success
    cases same
    rcases List.mem_cons.mp member with same | later
    · exact ⟨first, List.mem_cons_self, same ▸ headOk⟩
    · obtain ⟨result, inside, ok⟩ := ih restOk later
      exact ⟨result, List.mem_cons_of_mem first inside, ok⟩

theorem item_of_mapM_eq_ok {step : α → Except ε β} {items : List α} {results : List β}
    (success : items.mapM step = .ok results) (result : β) (member : result ∈ results) :
    ∃ item ∈ items, step item = .ok result := by
  induction items generalizing results with
  | nil =>
    cases success
    simp at member
  | cons head rest ih =>
    rw [mapM_cons_eq] at success
    obtain ⟨first, headOk, success⟩ := bind_eq_ok_iff.mp success
    obtain ⟨others, restOk, same⟩ := bind_eq_ok_iff.mp success
    cases same
    rcases List.mem_cons.mp member with rfl | later
    · exact ⟨head, List.mem_cons_self, headOk⟩
    · obtain ⟨item, inside, ok⟩ := ih restOk later
      exact ⟨item, List.mem_cons_of_mem head inside, ok⟩

-- The error is not just that of some failing item: every item before it has succeeded.
theorem mapM_eq_error_iff {step : α → Except ε β} {items : List α} {fault : ε} :
    items.mapM step = .error fault ↔ ∃ before item after, items = before ++ item :: after ∧
      (∀ earlier ∈ before, ∃ result, step earlier = .ok result) ∧ step item = .error fault := by
  induction items with
  | nil => simp [pure, Except.pure]
  | cons head rest ih =>
    rw [mapM_cons_eq, bind_eq_error_iff]
    constructor
    · rintro (failed | ⟨first, headOk, failed⟩)
      · exact ⟨[], head, rest, rfl, by simp, failed⟩
      · obtain ⟨before, item, after, split, fine, bad⟩ :=
          ih.mp ((bind_eq_error_iff.mp failed).resolve_right (by simp))
        refine ⟨head :: before, item, after, by rw [split]; rfl, ?_, bad⟩
        intro earlier member
        rcases List.mem_cons.mp member with same | later
        · exact ⟨first, same ▸ headOk⟩
        · exact fine earlier later
    · rintro ⟨before, item, after, split, fine, bad⟩
      cases before with
      | nil =>
        obtain ⟨rfl, rfl⟩ := List.cons.inj split
        exact Or.inl bad
      | cons other before =>
        obtain ⟨rfl, rfl⟩ := List.cons.inj split
        obtain ⟨first, headOk⟩ := fine head List.mem_cons_self
        have failed := ih.mpr ⟨before, item, after, rfl,
          fun earlier member => fine earlier (List.mem_cons_of_mem head member), bad⟩
        exact Or.inr ⟨first, headOk, by rw [failed]; rfl⟩

end LaunchConfig
