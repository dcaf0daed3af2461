import LaunchConfig.CpuSet
import Mathlib.Data.List.Destutter
import Mathlib.Data.List.Perm.Subperm

/-!
Numbers in order, each once. Only neighbours are compared when repeats are dropped; in a sorted
list equal numbers are neighbours, so no number is left twice.
-/
namespace LaunchConfig.CpuSet

theorem eraseReps_loop (first : Nat) (rest kept : List Nat) :
    List.eraseRepsBy.loop (· == ·) first rest kept =
      kept.reverse ++ rest.destutter' (· ≠ ·) first := by
  induction rest generalizing first kept with
  | nil => simp [List.eraseRepsBy.loop]
  | cons next rest ih =>
    rw [List.eraseRepsBy.loop, List.destutter'_cons]
    by_cases same : first = next
    · simp [same, ih]
    · have apart : (first == next) = false := beq_false_of_ne same
      simp [same, apart, ih]

theorem eraseReps_eq_destutter (numbers : List Nat) :
    numbers.eraseReps = numbers.destutter (· ≠ ·) := by
  cases numbers with
  | nil => rfl
  | cons first rest => exact eraseReps_loop first rest []

theorem sorted_ascending (numbers : List Nat) :
    (numbers.mergeSort (· ≤ ·)).Pairwise (· ≤ ·) := by
  have sorted : (numbers.mergeSort (· ≤ ·)).Pairwise fun low high => decide (low ≤ high) = true :=
    List.pairwise_mergeSort (by grind) (by grind) numbers
  simpa using sorted

theorem ordered_eq_dedup (numbers : List Nat) :
    ordered numbers = (numbers.mergeSort (· ≤ ·)).dedup := by
  rw [ordered, eraseReps_eq_destutter]
  exact (sorted_ascending numbers).destutter_eq_dedup

theorem mem_ordered_iff {numbers : List Nat} {number : Nat} :
    number ∈ ordered numbers ↔ number ∈ numbers := by
  rw [ordered_eq_dedup, List.mem_dedup, List.mem_mergeSort]

theorem ordered_ascending (numbers : List Nat) : (ordered numbers).Pairwise (· < ·) := by
  rw [ordered_eq_dedup]
  have sorted := (sorted_ascending numbers).sublist (List.dedup_sublist _)
  exact sorted.imp₂ (fun _ _ low apart => Nat.lt_of_le_of_ne low apart) (List.nodup_dedup _)

theorem length_ordered_le {numbers : List Nat} {limit : Nat}
    (bounded : ∀ number ∈ numbers, number ≤ limit) : (ordered numbers).length ≤ limit + 1 := by
  have once : (ordered numbers).Nodup := (ordered_ascending numbers).imp Nat.ne_of_lt
  have inside : ordered numbers ⊆ List.range (limit + 1) := by
    intro number member
    exact List.mem_range.mpr (Nat.lt_succ_of_le (bounded number (mem_ordered_iff.mp member)))
  simpa using (List.Nodup.subperm once inside).length_le

end LaunchConfig.CpuSet
