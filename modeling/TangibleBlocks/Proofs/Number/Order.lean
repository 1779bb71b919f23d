import TangibleBlocks.Number.Binary32

/-!
How the two orders of numbers fit together. The total order refines the usual
one: it tells the zeros apart and finds a place for every NaN, but never puts a
greater number before a smaller one.
-/

namespace TangibleBlocks.Binary32

theorem position_le_of_rank_le {x y : Binary32} (h : x.rank ≤ y.rank) :
    x.position ≤ y.position := by
  have hx := bits_lt x
  have hy := bits_lt y
  simp only [rank, position, magnitude, isNegative, decide_eq_true_eq] at h ⊢
  by_cases hsx : 0x80000000 ≤ x.bits.toNat <;> by_cases hsy : 0x80000000 ≤ y.bits.toNat <;>
    simp only [hsx, hsy, if_true, if_false] at h ⊢ <;> omega

theorem isNaN_right_of_lt {x y : Binary32} (h : x < y) : y.isNaN = false :=
  (lt_iff.mp h).2.1

/-- What exceeds a number is exceeded by no number farther down in the total order. -/
theorem lt_of_lt_of_rank_le {x y z : Binary32} (hxy : x < y) (hyz : y.rank ≤ z.rank)
    (hz : z.isNaN = false) : x < z := by
  obtain ⟨hx, -, hpos⟩ := lt_iff.mp hxy
  have hle := position_le_of_rank_le hyz
  exact lt_iff.mpr ⟨hx, hz, by omega⟩

theorem lt_of_le_of_lt {x y z : Binary32} (hxy : x ≤ y) (hyz : y < z) : x < z := by
  obtain ⟨hx, -, hxy⟩ := le_iff.mp hxy
  obtain ⟨-, hz, hyz⟩ := lt_iff.mp hyz
  exact lt_iff.mpr ⟨hx, hz, by omega⟩

theorem lt_of_lt_of_le {x y z : Binary32} (hxy : x < y) (hyz : y ≤ z) : x < z := by
  obtain ⟨hx, -, hxy⟩ := lt_iff.mp hxy
  obtain ⟨-, hz, hyz⟩ := le_iff.mp hyz
  exact lt_iff.mpr ⟨hx, hz, by omega⟩

theorem le_of_lt {x y : Binary32} (h : x < y) : x ≤ y := by
  obtain ⟨hx, hy, hpos⟩ := lt_iff.mp h
  exact le_iff.mpr ⟨hx, hy, by omega⟩

theorem le_self {x : Binary32} (hx : x.isNaN = false) : x ≤ x :=
  le_iff.mpr ⟨hx, hx, Int.le_refl _⟩

theorem not_le_iff_lt {x y : Binary32} (hx : x.isNaN = false) (hy : y.isNaN = false) :
    ¬ x ≤ y ↔ y < x := by
  rw [le_iff, lt_iff]
  simp only [hx, hy, true_and]
  omega

theorem not_lt_iff_le {x y : Binary32} (hx : x.isNaN = false) (hy : y.isNaN = false) :
    ¬ x < y ↔ y ≤ x := by
  rw [le_iff, lt_iff]
  simp only [hx, hy, true_and]
  omega

/-! ### Finite numbers -/

/-- Neither an infinity nor a NaN. -/
def IsFinite (x : Binary32) : Prop :=
  x.isNaN = false ∧ x.isInfinite = false

theorem isNaN_eq_false_iff {x : Binary32} : x.isNaN = false ↔ x.magnitude ≤ 0x7f800000 := by
  simp [isNaN]

theorem isFinite_iff {x : Binary32} : x.IsFinite ↔ x.magnitude < 0x7f800000 := by
  have hinfinite : x.isInfinite = false ↔ x.magnitude ≠ 0x7f800000 := by simp [isInfinite]
  rw [IsFinite, isNaN_eq_false_iff, hinfinite]
  omega

/-- The least finite number is below all others but the negative infinity. -/
theorem lowest_le_iff {x : Binary32} : lowest ≤ x ↔ x.IsFinite ∨ x = infinity := by
  have hx := bits_lt x
  have hinfinity : x = infinity ↔ x.bits.toNat = 0x7f800000 := by
    cases x
    simp [infinity, ← UInt32.toNat_inj]
  have hlowest : lowest.isNaN = false ∧ lowest.position = -0x7f7fffff := by decide
  rw [le_iff, hlowest.1, hlowest.2, isNaN_eq_false_iff, isFinite_iff, hinfinity]
  simp only [true_and, position, magnitude, isNegative, decide_eq_true_eq]
  split <;> omega

end TangibleBlocks.Binary32
