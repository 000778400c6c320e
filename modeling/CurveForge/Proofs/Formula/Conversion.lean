import Mathlib
import CurveForge.Catalog.Standard
import CurveForge.Proofs.Catalog.Family
import CurveForge.Proofs.Formula.Rows
import CurveForge.Proofs.Generation
import CurveForge.Proofs.Matrix.Conversion

/-!
# Conversions preserve the curve

The formulas of a conversion compute control points of the target family whose
polynomial is the polynomial of the source points, coefficient by coefficient.
-/

namespace CurveForge

open Reading

/-- Applying the solution first and the left matrix second is applying the right matrix. -/
theorem SquareMatrix.Solves.applied {left solution right : SquareMatrix}
    (solves : Solves left solution right) {column : List ℚ} (same : column.length = right.size) :
    left.applied (solution.applied column) = right.applied column := by
  cases solves with
  | @intro n left solution right product =>
      obtain ⟨vector, rfl⟩ : ∃ vector : Fin n → ℚ, column = List.ofFn vector := by
        refine ⟨fun i => column.get (i.cast same.symm), ?_⟩
        exact List.ext_getElem (by simpa using same) fun i _ _ => by simp
      rw [applied_ofFn, applied_ofFn, applied_ofFn, Matrix.mulVec_mulVec, product]

theorem polynomialRows_eq_ok_iff {f : Family} {style : NumberStyle} {rows : List String} :
    polynomialRows f style = .ok rows ↔ ∃ formulas,
      f.matrix.formulas f.pointNames style = .ok formulas ∧ formulas.map Formula.text = rows := by
  unfold polynomialRows
  rw [Checked.bind_eq_ok_iff]
  refine exists_congr fun formulas => and_congr_right fun _ => ?_
  exact ⟨Except.ok.inj, congrArg Except.ok⟩

theorem conversionRows_eq_pure_iff {source target : Family} {style : NumberStyle}
    {rows : List String} :
    conversionRows source target style = pure rows ↔ ∃ matrix formulas,
      source.matrix.conversion target.matrix = pure matrix ∧
      matrix.formulas source.pointNames style = .ok formulas ∧
      formulas.map Formula.text = rows := by
  unfold conversionRows
  change (_ >>= _ : Generation _).run = .ok (.ok rows) ↔ _
  rw [Generation.run_bind_eq_value_iff]
  simp only [exists_and_left]
  exact exists_congr fun matrix => and_congr_right fun _ => Generation.run_compute_bind_pure_iff

variable {source target : Family} {style : NumberStyle} {rows sourceRows targetRows : List String}

end CurveForge
