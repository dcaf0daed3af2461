import LaunchConfig.Proofs.PartitionTotal
import Mathlib.Algebra.BigOperators.Group.List.Basic

/-!
The number of partitions under a change of the axes. The first two axes are multiplied before the
last one is looked at, so an empty last axis comes too late for them; every other grid has a number
of partitions exactly when the whole product has 64 bits, in whichever order its axes are taken.
-/
namespace LaunchConfig.PartitionGrid

/-- The exact product of the axes, if it has 64 bits. -/
def cells? (grid : PartitionGrid) : Option UInt64 :=
  if grid.cells < 2 ^ 64 then some (UInt64.ofNat grid.cells) else none

/-- The first two axes are too large together, though the last one is empty. -/
def Blocked (grid : PartitionGrid) : Prop :=
  2 ^ 64 ≤ grid.x.toNat * grid.y.toNat ∧ grid.z = 0

def axes (grid : PartitionGrid) : List UInt64 :=
  [grid.x, grid.y, grid.z]

/-- No two axes are too large together. -/
def Slim (grid : PartitionGrid) : Prop :=
  grid.axes.Pairwise fun first second => first.toNat * second.toNat < 2 ^ 64

theorem cells?_eq_some_iff {grid : PartitionGrid} {total : UInt64} :
    grid.cells? = some total ↔ grid.cells = total.toNat := by
  unfold cells?
  split
  next fits =>
    have whole : (UInt64.ofNat grid.cells).toNat = grid.cells := UInt64.toNat_ofNat_of_lt' fits
    rw [Option.some.injEq, ← UInt64.toNat_inj, whole]
  next large =>
    constructor
    · intro impossible
      cases impossible
    · intro same
      exact absurd (same ▸ total.toNat_lt) large

theorem Blocked.cells_eq {grid : PartitionGrid} (blocked : grid.Blocked) : grid.cells = 0 := by
  rw [cells, blocked.2, UInt64.toNat_zero, Nat.mul_zero]

theorem Blocked.total_eq {grid : PartitionGrid} (blocked : grid.Blocked) : grid.total = none := by
  apply Option.eq_none_iff_forall_ne_some.mpr
  intro total computed
  exact Nat.not_lt.mpr blocked.1 (total_eq_some_iff.mp computed).1

-- A last axis that is not empty makes the product no smaller, so the first product fits in it.
theorem total_eq_cells?_iff {grid : PartitionGrid} : grid.total = grid.cells? ↔ ¬ grid.Blocked := by
  constructor
  · intro same blocked
    have zero := cells?_eq_some_iff.mpr (blocked.cells_eq.trans UInt64.toNat_zero.symm)
    rw [← same, blocked.total_eq] at zero
    cases zero
  · intro free
    apply Option.ext
    intro total
    rw [total_eq_some_iff, cells?_eq_some_iff]
    refine ⟨And.right, fun whole => ⟨?_, whole⟩⟩
    by_contra large
    have positive : 0 < grid.z.toNat := by
      rw [Nat.pos_iff_ne_zero, ne_eq, ← UInt64.toNat_zero, UInt64.toNat_inj]
      exact fun empty => free ⟨Nat.le_of_not_lt large, empty⟩
    have plane : grid.x.toNat * grid.y.toNat ≤ grid.cells := Nat.le_mul_of_pos_right _ positive
    exact large (Nat.lt_of_le_of_lt plane (whole ▸ total.toNat_lt))

theorem total_eq_none_iff {grid : PartitionGrid} :
    grid.total = none ↔ 2 ^ 64 ≤ grid.cells ∨ grid.Blocked := by
  by_cases blocked : grid.Blocked
  · simp [blocked, blocked.total_eq]
  · rw [total_eq_cells?_iff.mpr blocked, cells?]
    simp [blocked]

section Reordered

variable {grid other : PartitionGrid} (reordered : other.axes.Perm grid.axes)
include reordered

theorem cells_reordered : other.cells = grid.cells := by
  have product : ∀ grid : PartitionGrid, grid.cells = (grid.axes.map UInt64.toNat).prod := by
    intro grid
    simp [cells, axes, Nat.mul_assoc]
  rw [product, product, (reordered.map UInt64.toNat).prod_eq]

theorem cells?_reordered : other.cells? = grid.cells? := by
  rw [cells?, cells?, cells_reordered reordered]

theorem Slim.not_blocked (slim : grid.Slim) : ¬ other.Blocked := by
  have slim' : other.Slim := by
    refine (reordered.pairwise_iff ?_).mpr slim
    intro first second small
    rwa [Nat.mul_comm]
  intro blocked
  exact Nat.not_lt.mpr blocked.1 (List.rel_of_pairwise_cons slim' List.mem_cons_self)

end Reordered

/-- With the empty axis in front both products are small. -/
theorem exists_reordered {grid : PartitionGrid} (empty : grid.cells = 0) :
    ∃ other : PartitionGrid, other.axes.Perm grid.axes ∧ other.total = some 0 := by
  have front : ∀ y z : UInt64, (⟨0, y, z⟩ : PartitionGrid).total = some 0 := by
    intro y z
    rw [total_eq_some_iff]
    simp [cells]
  obtain ⟨x, y, z⟩ := grid
  have vanishes : (x = 0 ∨ y = 0) ∨ z = 0 := by
    rw [cells, Nat.mul_eq_zero, Nat.mul_eq_zero] at empty
    simpa only [← UInt64.toNat_inj, UInt64.toNat_zero] using empty
  rcases vanishes with (rfl | rfl) | rfl
  · exact ⟨_, List.Perm.refl _, front y z⟩
  · exact ⟨⟨0, x, z⟩, List.Perm.swap _ _ _, front x z⟩
  · exact ⟨⟨0, x, y⟩, (List.perm_append_singleton 0 [x, y]).symm, front x y⟩

theorem slim_of_total {grid : PartitionGrid} {total : UInt64}
    (computed : ∀ other : PartitionGrid, other.axes.Perm grid.axes → other.total = some total) :
    grid.Slim := by
  have small : ∀ other : PartitionGrid, other.axes.Perm grid.axes →
      other.x.toNat * other.y.toNat < 2 ^ 64 :=
    fun other reordered => (total_eq_some_iff.mp (computed other reordered)).1
  -- Each pair of axes comes first in one of the orders.
  have front := small grid (List.Perm.refl _)
  have ends := small ⟨grid.x, grid.z, grid.y⟩ ((List.Perm.swap _ _ _).cons _)
  have back := small ⟨grid.y, grid.z, grid.x⟩ (List.perm_append_singleton _ [_, _])
  simpa [Slim, axes] using ⟨⟨front, ends⟩, back⟩

theorem total_reordered_iff {grid : PartitionGrid} :
    (∀ other : PartitionGrid, other.axes.Perm grid.axes → other.total = grid.total) ↔
      grid.cells ≠ 0 ∨ grid.Slim := by
  constructor
  · intro same
    rw [or_iff_not_imp_left, not_not]
    intro empty
    obtain ⟨first, reordered, computed⟩ := exists_reordered empty
    apply slim_of_total
    intro other reordered'
    rw [same other reordered', ← same first reordered, computed]
  · intro regular
    have free : ∀ other : PartitionGrid, other.axes.Perm grid.axes → ¬ other.Blocked := by
      intro other reordered
      rcases regular with some_ | slim
      · exact fun blocked => some_ ((cells_reordered reordered).symm.trans blocked.cells_eq)
      · exact slim.not_blocked reordered
    intro other reordered
    rw [total_eq_cells?_iff.mpr (free other reordered), cells?_reordered reordered,
      total_eq_cells?_iff.mpr (free grid (List.Perm.refl _))]

/-- A number of partitions is always the exact product of the axes. There is none when this product
has more than 64 bits, and also when the first two axes are too large together and the last one is
empty; only because of the latter the order of the axes may count. -/
theorem total_exact (grid : PartitionGrid) :
    (∀ total, grid.total = some total →
      total.toNat = grid.x.toNat * grid.y.toNat * grid.z.toNat) ∧
    (grid.total = none ↔ 2 ^ 64 ≤ grid.x.toNat * grid.y.toNat * grid.z.toNat ∨
      2 ^ 64 ≤ grid.x.toNat * grid.y.toNat ∧ grid.z = 0) ∧
    (grid.total = grid.cells? ↔ ¬ grid.Blocked) ∧
    ((∀ other : PartitionGrid, other.axes.Perm grid.axes → other.total = grid.total) ↔
      grid.cells ≠ 0 ∨ grid.Slim) := by
  refine ⟨?_, total_eq_none_iff, total_eq_cells?_iff, total_reordered_iff⟩
  intro total computed
  exact (total_eq_some_iff.mp computed).2.symm

/-- A grid without a cell has no number of partitions, until its empty axis is taken first. -/
theorem not_exact_of_empty_last :
    (⟨9223372036854775808, 2, 0⟩ : PartitionGrid).cells = 0 ∧
    (⟨9223372036854775808, 2, 0⟩ : PartitionGrid).total = none ∧
    (⟨0, 9223372036854775808, 2⟩ : PartitionGrid).axes.Perm
      (⟨9223372036854775808, 2, 0⟩ : PartitionGrid).axes ∧
    (⟨0, 9223372036854775808, 2⟩ : PartitionGrid).total = some 0 := by
  decide

end LaunchConfig.PartitionGrid
