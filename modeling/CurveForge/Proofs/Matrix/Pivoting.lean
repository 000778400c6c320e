import Mathlib
import CurveForge.Proofs.Checked

/-!
# Pivoting

One step of elimination, seen on a matrix of rational numbers: the pivot row is
brought to the diagonal and scaled, and multiples of it are subtracted from all
other rows. The step is a linear map on the rows with an inverse, so it can be
carried through a product and keeps a determinant away from zero.
-/

namespace CurveForge.Pivoting

variable {n : Nat}

/-- The matrix after a pivot row has been exchanged with the row of its column, scaled, and
subtracted from every other row in the given multiples. -/
def pivoted (x : Matrix (Fin n) (Fin n) ℚ) (pivot col : Fin n) (scale : ℚ) (factor : Fin n → ℚ) :
    Matrix (Fin n) (Fin n) ℚ :=
  Matrix.of fun r c =>
    if r = col then scale * x pivot c
    else x (Equiv.swap pivot col r) c - factor r * (scale * x pivot c)

theorem pivoted_mul (x y : Matrix (Fin n) (Fin n) ℚ) (pivot col : Fin n) (scale : ℚ)
    (factor : Fin n → ℚ) :
    pivoted x pivot col scale factor * y = pivoted (x * y) pivot col scale factor := by
  ext r c
  by_cases diagonal : r = col
  · simp [pivoted, Matrix.mul_apply, diagonal, Finset.mul_sum, mul_assoc]
  · simp [pivoted, Matrix.mul_apply, diagonal, Finset.mul_sum, Finset.sum_sub_distrib, sub_mul,
      mul_assoc]

/-- A step with a scale other than zero keeps a regular matrix regular. -/
theorem det_pivoted_ne_zero {x : Matrix (Fin n) (Fin n) ℚ} {pivot col : Fin n} {scale : ℚ}
    (factor : Fin n → ℚ) (nonzero : scale ≠ 0) (regular : x.det ≠ 0) :
    (pivoted x pivot col scale factor).det ≠ 0 := by
  let exchanged := x.submatrix (Equiv.swap pivot col) id
  let scaled := exchanged.updateRow col (scale • exchanged col)
  have cleared : (pivoted x pivot col scale factor).det = scaled.det := by
    refine Matrix.det_eq_of_forall_row_eq_smul_add_const
      (fun r => if r = col then 0 else -factor r) col (if_pos rfl) ?_
    intro r c
    by_cases diagonal : r = col
    · simp [pivoted, scaled, exchanged, diagonal]
    · simp [pivoted, scaled, exchanged, diagonal, sub_eq_add_neg]
  have scaledDet : scaled.det = scale * exchanged.det := by
    simp only [scaled, Matrix.det_updateRow_smul, Matrix.updateRow_eq_self]
  have exchangedDet : exchanged.det ≠ 0 := by
    simp only [exchanged, Matrix.det_permute]
    exact mul_ne_zero (by exact_mod_cast (Equiv.Perm.sign _).ne_zero) regular
  rw [cleared, scaledDet]
  exact mul_ne_zero nonzero exchangedDet

/-- The column is a column of the identity. -/
def UnitColumn (x : Matrix (Fin n) (Fin n) ℚ) (col : Fin n) : Prop :=
  ∀ r, x r col = (1 : Matrix (Fin n) (Fin n) ℚ) r col

variable {x : Matrix (Fin n) (Fin n) ℚ} {pivot col : Fin n}

/-- Scaling by the inverse pivot and subtracting the entries of the column clears it. -/
theorem unitColumn_pivoted (nonzero : x pivot col ≠ 0) :
    UnitColumn (pivoted x pivot col (x pivot col)⁻¹ fun r => x (Equiv.swap pivot col r) col)
      col := by
  intro r
  by_cases diagonal : r = col
  · subst diagonal
    simp [pivoted, nonzero]
  · simp [pivoted, diagonal, nonzero]

/-- A column that is cleared already and lies before the pivot column stays cleared. -/
theorem UnitColumn.pivoted {earlier : Fin n} (unit : UnitColumn x earlier) (before : earlier < col)
    (below : col ≤ pivot) (scale : ℚ) (factor : Fin n → ℚ) :
    UnitColumn (Pivoting.pivoted x pivot col scale factor) earlier := by
  have pivotOther : pivot ≠ earlier := (before.trans_le below).ne'
  have pivotZero : x pivot earlier = 0 := by rw [unit pivot, Matrix.one_apply_ne pivotOther]
  intro r
  by_cases diagonal : r = col
  · subst diagonal
    simp [Pivoting.pivoted, pivotZero, Matrix.one_apply_ne before.ne']
  · simp only [Pivoting.pivoted, Matrix.of_apply, if_neg diagonal, pivotZero, mul_zero, sub_zero]
    rw [unit]
    by_cases exchanged : r = pivot
    · subst exchanged
      rw [Equiv.swap_apply_left, Matrix.one_apply_ne before.ne', Matrix.one_apply_ne pivotOther]
    · rw [Equiv.swap_apply_of_ne_of_ne exchanged diagonal]

/-- If the columns before a column are cleared and it is zero from the diagonal on, it is a
combination of them. -/
theorem det_eq_zero_of_no_pivot (units : ∀ earlier < col, UnitColumn x earlier)
    (zeros : ∀ r, col ≤ r → x r col = 0) : x.det = 0 := by
  let combination : Fin n → ℚ := fun c => if c = col then 1 else if c < col then -x c col else 0
  have nonzero : combination ≠ 0 := fun zero => by
    have entry := congrFun zero col
    simp [combination] at entry
  refine Matrix.exists_mulVec_eq_zero_iff.mp ⟨combination, nonzero, ?_⟩
  funext r
  have term (c : Fin n) : x r c * combination c =
      (if c = col then x r col else 0) +
        (if c = r then (if r < col then -x r col else 0) else 0) := by
    by_cases atCol : c = col
    · subst atCol
      by_cases atRow : c = r
      · simp [combination, atRow]
      · simp [combination, atRow]
    · by_cases before : c < col
      · have column := units c before r
        by_cases atRow : c = r
        · subst atRow
          simp [combination, atCol, before, column]
        · have entry : x r c = 0 := by rw [column, Matrix.one_apply_ne (Ne.symm atRow)]
          simp [atCol, atRow, entry]
      · by_cases atRow : c = r
        · subst atRow
          simp [combination, atCol, before]
        · simp [combination, atCol, atRow, before]
  rw [Matrix.mulVec, dotProduct, Finset.sum_congr rfl fun c _ => term c, Finset.sum_add_distrib,
    Finset.sum_ite_eq' Finset.univ col, Finset.sum_ite_eq' Finset.univ r]
  by_cases before : r < col
  · simp [before]
  · simp [before, zeros r (not_lt.mp before)]

end CurveForge.Pivoting
