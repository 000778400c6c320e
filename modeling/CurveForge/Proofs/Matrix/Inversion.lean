import Mathlib
import CurveForge.Proofs.Matrix.Conversion
import CurveForge.Proofs.Matrix.InPlace

/-!
# Inversion decides singularity

Only a result that is no word keeps the elimination from an answer. Then the answer is
the inverse on both sides, and there is none exactly if the determinant is zero. Neither
a position nor the inverse of a pivot can be missing on the way.
-/

namespace CurveForge

open Checked (Yields)

/-- Numbers that are not zero have an inverse, unless it is no word. -/
theorem Fraction.isSome_of_recip? {a : Fraction} {inverse : Option Fraction}
    (nonzero : a.isZero = false) (computed : a.recip? = .ok inverse) : inverse.isSome = true := by
  unfold recip? at computed
  rw [nonzero] at computed
  obtain ⟨c, -, result⟩ := Checked.bind_eq_ok_iff.mp computed
  cases result
  rfl

/-- Behind a pivot that was found and exchanged into the diagonal there is an inverse. -/
theorem Augmented.isSome_of_pivot? {n : Nat} {a : Augmented n} {col pivot : Fin n}
    {scale : Option Fraction} (found : a.pivot? col = some pivot)
    (computed : (Grid.entry (a.swapRows pivot col) col col).left.recip? = .ok scale) :
    scale.isSome = true := by
  have test := List.find?_some found
  rw [Bool.and_eq_true, Bool.not_eq_true'] at test
  rw [entry_swapRows, Equiv.swap_apply_right] at computed
  exact Fraction.isSome_of_recip? test.2 computed

namespace SquareMatrix

variable {m : SquareMatrix}

/-- What the inversion of a matrix answers when no fraction is too large. -/
def InverseAnswer (m : SquareMatrix) : Option SquareMatrix → Prop
  | none => m.determinant = 0
  | some answer => m.determinant ≠ 0 ∧ answer.Reduced ∧
      ∃ inverse : Grid Fraction m.size, answer = ⟨m.size, inverse⟩ ∧
        m.grid.values * inverse.values = 1 ∧ inverse.values * m.grid.values = 1

theorem inverse?_answers (reduced : m.Reduced) : Yields m.inverse? m.InverseAnswer := by
  obtain ⟨n, grid⟩ := m
  refine (inverse?_yields reduced).mono fun result holds => ?_
  rcases holds with ⟨rfl, singular⟩ | ⟨inverse, rfl, inverseReduced, product⟩
  · exact singular
  · exact ⟨Matrix.det_ne_zero_of_left_inverse product, inverseReduced, inverse, rfl,
      mul_eq_one_comm.mp product, product⟩

/-- The inversion of a matrix in lowest terms answers an inverse on both sides, or that the
determinant is zero, unless a result is no word. In place, cell by cell, it ends in the same way:
no position is refused in a matrix whose number of cells is a word. And whatever has become of the
matrix, a pivot that is found has an inverse. -/
theorem inverse?_decides (reduced : m.Reduced) :
    Yields m.inverse? m.InverseAnswer ∧
      (m.size * m.size < Word.limit → m.inverseInPlace? = m.inverse?) ∧
      ∀ (a : Augmented m.size) (col pivot : Fin m.size), a.pivot? col = some pivot →
        ∀ scale, (Grid.entry (a.swapRows pivot col) col col).left.recip? = .ok scale →
          scale.isSome = true :=
  ⟨inverse?_answers reduced, fun small => inverseInPlace?_eq small,
    fun _ _ _ found _ computed => Augmented.isSome_of_pivot? found computed⟩

def crossed : SquareMatrix :=
  ⟨2, Grid.ofFn fun r c => if r = c then 0 else if r = 0 then 1 else .ofInt64 2⟩

theorem inverse?_decides_crossed :
    crossed.Reduced ∧ crossed.size * crossed.size < Word.limit ∧ crossed.determinant ≠ 0 ∧
      ∃ inverse : Grid Fraction crossed.size,
        crossed.inverseInPlace? = .ok (some ⟨crossed.size, inverse⟩) ∧
        crossed.grid.values * inverse.values = 1 ∧ inverse.values * crossed.grid.values = 1 := by
  have reduced : crossed.Reduced := by decide +kernel
  have small : crossed.size * crossed.size < Word.limit := by decide
  have some : crossed.inverse?.toOption.join.isSome = true := by decide +kernel
  obtain ⟨answers, inPlace, -⟩ := inverse?_decides reduced
  cases result : crossed.inverse? with
  | error fault =>
      rw [result] at some
      cases some
  | ok answer =>
      cases answer with
      | none =>
          rw [result] at some
          cases some
      | some answer =>
          obtain ⟨regular, -, inverse, rfl, right, left⟩ := answers.of_eq_ok result
          exact ⟨reduced, small, regular, inverse, (inPlace small).trans result, right, left⟩

end SquareMatrix

end CurveForge
