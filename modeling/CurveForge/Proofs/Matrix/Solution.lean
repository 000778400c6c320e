import Mathlib
import CurveForge.Proofs.Formula.Conversion
import CurveForge.Proofs.Matrix.Composition

/-!
# The equation that a conversion solves

Multiplied from the left by the target matrix, a conversion is the source matrix, and no
other matrix is. Points that are converted and then expanded in the target basis are
therefore the points expanded in the source basis. Where there is no conversion, the
error tells of different sizes first and of a singular target second.
-/

namespace CurveForge

open Checked (Yields)

/-- Fractions in lowest terms are determined by their values. -/
theorem Fraction.eq_of_map_value_eq {left right : List Fraction}
    (leftReduced : ∀ entry ∈ left, entry.Reduced) (rightReduced : ∀ entry ∈ right, entry.Reduced)
    (same : left.map Fraction.value = right.map Fraction.value) : left = right := by
  induction left generalizing right with
  | nil => exact (List.map_eq_nil_iff.mp same.symm).symm
  | cons first rest ih =>
      cases right with
      | nil => cases same
      | cons other others =>
          obtain ⟨firstReduced, restReduced⟩ := List.forall_mem_cons.mp leftReduced
          obtain ⟨otherReduced, othersReduced⟩ := List.forall_mem_cons.mp rightReduced
          obtain ⟨here, later⟩ := List.cons.inj same
          rw [firstReduced.eq_of_value_eq otherReduced here, ih restReduced othersReduced later]

namespace SquareMatrix

/-- A column of fractions is expanded into the column of the exact sums. -/
theorem apply_yields {m : SquareMatrix} (reduced : m.Reduced) {column : List Fraction}
    (columnReduced : ∀ entry ∈ column, entry.Reduced) (same : column.length = m.size) :
    Yields (m.apply column) fun result => (∀ entry ∈ result, entry.Reduced) ∧
      result.map Fraction.value = m.applied (column.map Fraction.value) := by
  have each : ∀ row ∈ m.rows, Yields (Fraction.dot (row.zip column)) fun entry => entry.Reduced ∧
      entry.value = ((row.zip (column.map Fraction.value)).map fun pair =>
        pair.1.value * pair.2).sum := by
    intro row member
    refine (Fraction.dot_yields _ ?_).mono fun entry holds => ⟨holds.1, ?_⟩
    · intro pair inside
      obtain ⟨weight, value⟩ := List.of_mem_zip inside
      exact ⟨reduced_of_mem reduced member weight, columnReduced _ value⟩
    · rw [holds.2, List.zip_map_right, List.map_map]
      rfl
  unfold apply
  rw [if_neg (not_not.mpr same)]
  refine (Checked.yields_mapM each).mono fun result holds => ⟨?_, ?_⟩
  · intro entry member
    obtain ⟨row, -, related⟩ := exists_of_forall₂_of_mem holds member
    exact related.1
  · symm
    apply map_eq_map_of_forall₂
    exact holds.imp fun row entry related => related.2.symm

/-- The solution is the only matrix whose product with the left matrix is the right matrix. -/
inductive SolvesUniquely : SquareMatrix → SquareMatrix → SquareMatrix → Prop where
  | intro {n : Nat} {left solution right : Grid Fraction n}
      (product : left.values * solution.values = right.values)
      (unique : ∀ other : Matrix (Fin n) (Fin n) ℚ,
        left.values * other = right.values → other = solution.values) :
      SolvesUniquely ⟨n, left⟩ ⟨n, solution⟩ ⟨n, right⟩

theorem Solves.uniquely {left solution right : SquareMatrix} (solves : Solves left solution right)
    (regular : left.determinant ≠ 0) : SolvesUniquely left solution right := by
  cases solves with
  | @intro n left solution right product =>
      have unit : IsUnit left.values :=
        (Matrix.isUnit_iff_isUnit_det _).mpr (isUnit_iff_ne_zero.mpr regular)
      exact .intro product fun other same => unit.mul_right_inj.mp (same.trans product.symm)

/-- Expanding converted points in the target basis is expanding the points in the source basis, in
fractions as well, unless one is too large. -/
theorem Solves.apply_yields {left solution right : SquareMatrix} (solves : Solves left solution right)
    (leftReduced : left.Reduced) (solutionReduced : solution.Reduced) (rightReduced : right.Reduced)
    {column : List Fraction} (same : column.length = right.size)
    (columnReduced : ∀ entry ∈ column, entry.Reduced) :
    Yields (solution.apply column >>= left.apply) fun points =>
      Yields (right.apply column) (points = ·) := by
  obtain ⟨leftSize, rightSize⟩ := solves.size_eq
  apply (SquareMatrix.apply_yields solutionReduced columnReduced (same.trans rightSize.symm)).bind
  intro converted holds
  have width : converted.length = left.size := by
    rw [← List.length_map (f := Fraction.value), holds.2, length_applied, leftSize]
  apply (SquareMatrix.apply_yields leftReduced holds.1 width).mono
  intro points expanded
  apply (SquareMatrix.apply_yields rightReduced columnReduced same).mono
  intro direct answers
  have values : points.map Fraction.value = direct.map Fraction.value := by
    rw [expanded.2, holds.2, answers.2]
    exact solves.applied (by rw [List.length_map, same])
  exact Fraction.eq_of_map_value_eq expanded.1 answers.1 values

variable {source target : SquareMatrix}

/-- A conversion between different sizes is refused, also into a singular matrix. Between equal
sizes it is refused exactly if the target is singular; otherwise it answers the only solution. -/
theorem conversion_solves (sourceReduced : source.Reduced) (targetReduced : target.Reduced) :
    ((source.conversion target).run = .ok (.error (.degreeMismatch source.size target.size)) ↔
      source.size ≠ target.size) ∧
    Yields (source.conversion target).run fun answer =>
      (answer = .error (.singularBasisMatrix source target) ↔
        source.size = target.size ∧ target.determinant = 0) ∧
      (source.size = target.size → target.determinant ≠ 0 → ∃ solution, answer = .ok solution ∧
        SolvesUniquely target solution source ∧
        (∀ column : List ℚ, column.length = source.size →
          target.applied (solution.applied column) = source.applied column) ∧
        ∀ column : List Fraction, column.length = source.size →
          (∀ entry ∈ column, entry.Reduced) →
          Yields (solution.apply column >>= target.apply) fun points =>
            Yields (source.apply column) (points = ·)) := by
  have answers := conversion_yields sourceReduced targetReduced
  refine ⟨⟨?_, conversion_of_size_ne⟩, answers.mono fun answer holds => ?_⟩
  · intro refused
    rcases answers.of_eq_ok refused with ⟨differ, -⟩ | ⟨-, -, other⟩
    · exact differ
    · cases other
  · cases answer with
    | error reason =>
        rcases holds with ⟨differ, rfl⟩ | ⟨same, singular, rfl⟩
        · refine ⟨⟨?_, fun both => absurd both.1 differ⟩, fun same => absurd same differ⟩
          rintro ⟨⟩
        · exact ⟨⟨fun _ => ⟨same, singular⟩, fun _ => rfl⟩, fun _ regular => absurd singular regular⟩
    | ok solution =>
        obtain ⟨-, regular, reduced, solves⟩ := holds
        refine ⟨⟨?_, fun both => absurd both.2 regular⟩, fun _ _ => ⟨solution, rfl, ?_, ?_, ?_⟩⟩
        · rintro ⟨⟩
        · exact solves.uniquely regular
        · exact fun column same => solves.applied same
        · exact fun column same columnReduced =>
            solves.apply_yields targetReduced reduced sourceReduced same columnReduced

/-- There is one conversion from Hermite to Bézier points, and it carries every column. -/
theorem conversion_solves_hermite :
    Basis.cubicHermite.Reduced ∧ Basis.cubicBezier.Reduced ∧
      Basis.cubicBezier.determinant ≠ 0 ∧ ∃ solution,
        Basis.cubicHermite.conversion Basis.cubicBezier = pure solution ∧
        SolvesUniquely Basis.cubicBezier solution Basis.cubicHermite ∧
        ∀ column : List ℚ, column.length = 4 →
          Basis.cubicBezier.applied (solution.applied column) =
            Basis.cubicHermite.applied column := by
  have source : Basis.cubicHermite.Reduced := by decide +kernel
  have target : Basis.cubicBezier.Reduced := by decide +kernel
  have regular : Basis.cubicBezier.determinant ≠ 0 :=
    determinant_ne_zero_of_inverse? target (by decide +kernel)
  obtain ⟨matrix, converted⟩ := Generation.exists_value_of_isSome
    (x := Basis.cubicHermite.conversion Basis.cubicBezier) (by decide +kernel)
  obtain ⟨-, answers⟩ := conversion_solves source target
  obtain ⟨solution, same, unique, expands, -⟩ := (answers.of_eq_ok converted).2 rfl regular
  cases same
  exact ⟨source, target, regular, _, converted, unique, expands⟩

end SquareMatrix

end CurveForge
