import LaunchConfig.Proofs.Numeral
import LaunchConfig.Proofs.Validation

/-!
The number of partitions of a grid. It is computed by two products, each of which has to fit; the
rules of the section on the simulation bound every axis by the scale and the scale by a power of
two, so that both products fit with room to spare.
-/
namespace LaunchConfig

namespace PartitionGrid

theorem product?_eq_some_iff {left right product : UInt64} :
    product? left right = some product ↔ left.toNat * right.toNat = product.toNat := by
  unfold product?
  split
  next fits =>
    have whole : (left * right).toNat = left.toNat * right.toNat := by
      rw [UInt64.toNat_mul, Nat.mod_eq_of_lt (Numeral.le_maxUnsigned_iff.mp fits)]
    rw [Option.some.injEq, ← UInt64.toNat_inj, whole]
  next large =>
    constructor
    · intro impossible
      cases impossible
    · intro same
      exact absurd (same ▸ Numeral.u64_le_maxUnsigned product) large

/-- The cells of the grid, however many they are. -/
def cells (grid : PartitionGrid) : Nat :=
  grid.x.toNat * grid.y.toNat * grid.z.toNat

/-- The first product has to fit too, whatever the last axis is. -/
theorem total_eq_some_iff {grid : PartitionGrid} {total : UInt64} :
    grid.total = some total ↔
      grid.x.toNat * grid.y.toNat < 2 ^ 64 ∧ grid.cells = total.toNat := by
  rw [PartitionGrid.total, Option.bind_eq_some_iff]
  constructor
  · rintro ⟨plane, first, second⟩
    rw [product?_eq_some_iff] at first second
    rw [cells, first]
    exact ⟨plane.toNat_lt, second⟩
  · rintro ⟨fits, whole⟩
    have plane : (UInt64.ofNat (grid.x.toNat * grid.y.toNat)).toNat = grid.x.toNat * grid.y.toNat :=
      UInt64.toNat_ofNat_of_lt' fits
    refine ⟨_, product?_eq_some_iff.mpr plane.symm, product?_eq_some_iff.mpr ?_⟩
    rw [plane]
    exact whole

theorem Valid.cells_pos {scale : Nat} {grid : PartitionGrid} (valid : grid.Valid scale) :
    1 ≤ grid.cells := by
  have plane := Nat.mul_pos valid.x.1 valid.y.1
  exact Nat.mul_pos plane valid.z.1

theorem Valid.cells_le {scale : Nat} {grid : PartitionGrid} (valid : grid.Valid scale) :
    grid.cells ≤ scale ^ 3 := by
  have plane := Nat.mul_le_mul valid.x.2 valid.y.2
  calc
    grid.cells ≤ scale * scale * scale := Nat.mul_le_mul plane valid.z.2
    _ = scale ^ 3 := by rw [Nat.pow_succ, Nat.pow_two]

/-- Without an empty axis no product on the way is larger than the last one. -/
theorem Valid.exists_total {scale : Nat} {grid : PartitionGrid} (valid : grid.Valid scale)
    (small : scale ^ 3 < 2 ^ 64) : ∃ total, grid.total = some total ∧ total.toNat = grid.cells := by
  have fits : grid.cells < 2 ^ 64 := Nat.lt_of_le_of_lt valid.cells_le small
  have plane : grid.x.toNat * grid.y.toNat ≤ grid.cells := Nat.le_mul_of_pos_right _ valid.z.1
  have whole : (UInt64.ofNat grid.cells).toNat = grid.cells := UInt64.toNat_ofNat_of_lt' fits
  exact ⟨_, total_eq_some_iff.mpr ⟨Nat.lt_of_le_of_lt plane fits, whole.symm⟩, whole⟩

end PartitionGrid

namespace Simulation

theorem Valid.cube_le {simulation : Simulation} (valid : simulation.Valid) :
    simulation.scale.toNat ^ 3 ≤ 2 ^ 60 :=
  calc
    simulation.scale.toNat ^ 3 ≤ (2 ^ 20) ^ 3 := Nat.pow_le_pow_left valid.scale.2 3
    _ = 2 ^ 60 := by rw [← Nat.pow_mul]

/-- The rules of the section hold when each field is within its limits, and only then. Under them
both grids have a number of partitions, which is the exact product of their axes: neither of the two
products overflows. -/
theorem totals_of_valid (simulation : Simulation) :
    (simulation.validate = .ok () ↔ simulation.Valid) ∧
    (simulation.validate = .ok () →
      ∀ grid ∈ [simulation.partitions, simulation.projection], ∃ total, grid.total = some total ∧
        grid.x.toNat * grid.y.toNat < 2 ^ 64 ∧
        total.toNat = grid.x.toNat * grid.y.toNat * grid.z.toNat ∧ 1 ≤ total.toNat ∧
        total.toNat ≤ simulation.scale.toNat ^ 3 ∧ simulation.scale.toNat ^ 3 ≤ 2 ^ 60) := by
  refine ⟨validate_eq_ok_iff, ?_⟩
  intro accepted grid member
  have valid := validate_eq_ok_iff.mp accepted
  have cube := valid.cube_le
  have within : grid.Valid simulation.scale.toNat := by
    rcases List.mem_pair.mp member with rfl | rfl
    · exact valid.partitions
    · exact valid.projection
  obtain ⟨total, computed, same⟩ := within.exists_total (Nat.lt_of_le_of_lt cube (by decide))
  refine ⟨total, computed, (PartitionGrid.total_eq_some_iff.mp computed).1, same, ?_, ?_, cube⟩
  · rw [same]
    exact within.cells_pos
  · rw [same]
    exact within.cells_le

/-- The largest simulation that keeps the rules, which has as many partitions as there can be. -/
def largest : Simulation where
  scale := extent
  partitions := ⟨extent, extent, extent⟩
  projection := ⟨extent, extent, extent⟩
  frames := extent
  threads := 1024
  batch := extent
  iterations := extent
  skipsProjection := false
  writesPerPart := true
  pinned := true
  cpus := ⟨"0", [0]⟩

theorem totals_of_largest : largest.validate = .ok () ∧
    ∃ total, largest.partitions.total = some total ∧ total.toNat = 2 ^ 60 := by
  have accepted : largest.validate = .ok () := by decide
  obtain ⟨total, computed, -, whole, -⟩ :=
    (totals_of_valid largest).2 accepted largest.partitions List.mem_cons_self
  exact ⟨accepted, total, computed, whole⟩

end Simulation

end LaunchConfig
