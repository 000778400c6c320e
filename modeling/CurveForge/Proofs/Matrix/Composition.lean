import Mathlib
import CurveForge.Catalog.Standard
import CurveForge.Proofs.Generation
import CurveForge.Proofs.Matrix.Conversion

/-!
# Conversions compose

A conversion solves an equation between matrices that has one solution, and a
fraction in lowest terms is determined by its value. Converting over a basis in
between is therefore the direct conversion, entry by entry, and converting there
and back changes nothing.
-/

namespace CurveForge

open Checked (Yields)

namespace Grid

variable {n : Nat}

theorem ext_entry {α : Type} {a b : Grid α n} (same : ∀ r c, a.entry r c = b.entry r c) :
    a = b := by
  obtain ⟨aRows⟩ := a
  obtain ⟨bRows⟩ := b
  congr 1
  ext r rBound c cBound
  exact same ⟨r, rBound⟩ ⟨c, cBound⟩

/-- A grid in lowest terms is determined by its values. -/
theorem eq_of_values_eq {a b : Grid Fraction n} (left : a.Reduced) (right : b.Reduced)
    (same : a.values = b.values) : a = b := by
  apply ext_entry
  intro r c
  exact (left r c).eq_of_value_eq (right r c) (congrFun (congrFun same r) c)

end Grid

namespace SquareMatrix

/-- Only a singular matrix lacks an inverse. -/
theorem determinant_ne_zero_of_inverse? {m : SquareMatrix} (reduced : m.Reduced)
    (inverts : m.grid.inverse?.toOption.join.isSome = true) : m.determinant ≠ 0 := by
  cases result : m.grid.inverse? with
  | error fault =>
      rw [result] at inverts
      cases inverts
  | ok found =>
      cases found with
      | none =>
          rw [result] at inverts
          cases inverts
      | some inverse =>
          have product : inverse.values * m.grid.values = 1 :=
            ((Grid.inverse?_yields reduced).of_eq_ok result).2
          exact Matrix.det_ne_zero_of_left_inverse product

/-- The conversion answers a matrix with the property, unless a fraction is too large. -/
def Converts (source target : SquareMatrix) (property : SquareMatrix → Prop) : Prop :=
  Yields (source.conversion target).run fun answer => ∃ m, answer = .ok m ∧ property m

theorem Converts.mono {source target : SquareMatrix} {property weaker : SquareMatrix → Prop}
    (converts : Converts source target property) (weaken : ∀ m, property m → weaker m) :
    Converts source target weaker := by
  apply Yields.mono converts
  rintro _ ⟨m, rfl, holds⟩
  exact ⟨m, rfl, weaken m holds⟩

/-- Between grids of one order, a conversion into a regular one answers the solution. -/
theorem converts_solution {n : Nat} {source target : Grid Fraction n}
    (sourceReduced : source.Reduced) (targetReduced : target.Reduced)
    (regular : target.values.det ≠ 0) :
    Converts ⟨n, source⟩ ⟨n, target⟩ fun m => ∃ solution : Grid Fraction n,
      m = ⟨n, solution⟩ ∧ solution.Reduced ∧ target.values * solution.values = source.values := by
  have answers : Yields (conversion ⟨n, source⟩ ⟨n, target⟩).run
      (ConversionAnswer ⟨n, source⟩ ⟨n, target⟩) := conversion_yields sourceReduced targetReduced
  apply answers.mono
  intro answer holds
  cases answer with
  | error reason =>
      rcases holds with ⟨differ, -⟩ | ⟨-, singular, -⟩
      · exact absurd rfl differ
      · exact absurd singular regular
  | ok m =>
      obtain ⟨-, -, reduced, solves⟩ := holds
      cases solves with
      | @intro _ _ solution _ product => exact ⟨_, rfl, solution, rfl, reduced, product⟩

/-- The equation of a conversion into a regular grid has one solution in lowest terms. -/
theorem solution_unique {n : Nat} {target x y : Grid Fraction n} (regular : target.values.det ≠ 0)
    (left : x.Reduced) (right : y.Reduced)
    (same : target.values * x.values = target.values * y.values) : x = y := by
  have unit : IsUnit target.values :=
    (Matrix.isUnit_iff_isUnit_det _).mpr (isUnit_iff_ne_zero.mpr regular)
  exact Grid.eq_of_values_eq left right (unit.mul_right_inj.mp same)

/-- The product of two solutions solves the equation of the direct conversion. -/
theorem mul_solutions {n : Nat} {a b c ab bc : Grid Fraction n} (abReduced : ab.Reduced)
    (bcReduced : bc.Reduced) (first : b.values * ab.values = a.values)
    (second : c.values * bc.values = b.values) :
    Yields (mul ⟨n, bc⟩ ⟨n, ab⟩) fun composed => ∃ grid : Grid Fraction n,
      composed = ⟨n, grid⟩ ∧ grid.Reduced ∧ c.values * grid.values = a.values := by
  apply (mul_yields bcReduced abReduced).mono
  rintro composed ⟨grid, rfl, reduced, values⟩
  refine ⟨grid, rfl, reduced, ?_⟩
  calc c.values * grid.values = c.values * bc.values * ab.values := by
        rw [values, Matrix.mul_assoc]
    _ = a.values := by rw [second, first]

theorem Converts.of_eq_pure {source target m : SquareMatrix} {property : SquareMatrix → Prop}
    (converts : Converts source target property)
    (result : (source.conversion target).run = .ok (.ok m)) : property m := by
  obtain ⟨_, same, holds⟩ := Yields.of_eq_ok converts result
  cases same
  exact holds

variable {a b c : SquareMatrix}

/-- Converting a basis into itself changes nothing, converting over a basis in between is the
direct conversion, and converting there and back changes nothing, unless a fraction is too large. -/
theorem conversion_composes (sameFirst : a.size = b.size) (sameSecond : b.size = c.size)
    (aReduced : a.Reduced) (bReduced : b.Reduced) (cReduced : c.Reduced)
    (aRegular : a.determinant ≠ 0) (bRegular : b.determinant ≠ 0) (cRegular : c.determinant ≠ 0) :
    Converts a a (· = ⟨a.size, Grid.identity a.size⟩) ∧
    Converts a b (fun ab => Converts b c fun bc =>
      Yields (bc.mul ab) fun composed => Converts a c (· = composed)) ∧
    Converts a b fun ab => Converts b a fun ba =>
      Yields (ba.mul ab) (· = ⟨a.size, Grid.identity a.size⟩) := by
  obtain ⟨n, a⟩ := a
  obtain ⟨_, b⟩ := b
  obtain ⟨_, c⟩ := c
  cases sameFirst
  cases sameSecond
  have identitySolves : a.values * (Grid.identity n).values = a.values := by
    rw [Grid.values_identity, Matrix.mul_one]
  refine ⟨?_, ?_, ?_⟩
  · apply (converts_solution aReduced aReduced aRegular).mono
    rintro _ ⟨solution, rfl, reduced, solves⟩
    rw [solution_unique aRegular reduced Grid.reduced_identity (solves.trans identitySolves.symm)]
  · apply (converts_solution aReduced bReduced bRegular).mono
    rintro _ ⟨ab, rfl, abReduced, first⟩
    apply (converts_solution bReduced cReduced cRegular).mono
    rintro _ ⟨bc, rfl, bcReduced, second⟩
    apply (mul_solutions abReduced bcReduced first second).mono
    rintro _ ⟨composed, rfl, composedReduced, solves⟩
    apply (converts_solution aReduced cReduced cRegular).mono
    rintro _ ⟨direct, rfl, directReduced, answers⟩
    rw [solution_unique cRegular directReduced composedReduced (answers.trans solves.symm)]
  · apply (converts_solution aReduced bReduced bRegular).mono
    rintro _ ⟨ab, rfl, abReduced, first⟩
    apply (converts_solution bReduced aReduced aRegular).mono
    rintro _ ⟨ba, rfl, baReduced, second⟩
    apply (mul_solutions abReduced baReduced first second).mono
    rintro _ ⟨composed, rfl, composedReduced, solves⟩
    rw [solution_unique aRegular composedReduced Grid.reduced_identity
      (solves.trans identitySolves.symm)]

/-- The conversions from Bézier over Hermite to uniform B-splines, and back from Hermite, with the
two products. -/
def splineRoundTrip : Generation (SquareMatrix × SquareMatrix) := do
  let ab ← Basis.cubicBezier.conversion Basis.cubicHermite
  let bc ← Basis.cubicHermite.conversion Basis.cubicUniformBSpline
  let ba ← Basis.cubicHermite.conversion Basis.cubicBezier
  let composed ← bc.mul ab
  let around ← ba.mul ab
  return (composed, around)

/-- From Bézier over Hermite to uniform B-splines, and from Bézier to Hermite and back: no fraction
is too large on the way. -/
theorem conversion_composes_splines :
    ∃ composed, splineRoundTrip = pure (composed, ⟨4, Grid.identity 4⟩) ∧
      Basis.cubicBezier.conversion Basis.cubicUniformBSpline = pure composed ∧
      Basis.cubicBezier.conversion Basis.cubicBezier = pure ⟨4, Grid.identity 4⟩ := by
  have bezier : Basis.cubicBezier.Reduced := by decide +kernel
  have hermite : Basis.cubicHermite.Reduced := by decide +kernel
  have spline : Basis.cubicUniformBSpline.Reduced := by decide +kernel
  obtain ⟨unchanged, through, back⟩ := conversion_composes (by rfl) (by rfl) bezier hermite spline
    (determinant_ne_zero_of_inverse? bezier (by decide +kernel))
    (determinant_ne_zero_of_inverse? hermite (by decide +kernel))
    (determinant_ne_zero_of_inverse? spline (by decide +kernel))
  obtain ⟨⟨composed, around⟩, computed⟩ :=
    Generation.exists_value_of_isSome (x := splineRoundTrip) (by decide +kernel)
  obtain ⟨direct, converted⟩ := Generation.exists_value_of_isSome
    (x := Basis.cubicBezier.conversion Basis.cubicUniformBSpline) (by decide +kernel)
  obtain ⟨same, kept⟩ := Generation.exists_value_of_isSome
    (x := Basis.cubicBezier.conversion Basis.cubicBezier) (by decide +kernel)
  obtain ⟨ab, first, rest⟩ := Generation.run_bind_eq_value_iff.mp computed
  obtain ⟨bc, second, rest⟩ := Generation.run_bind_eq_value_iff.mp rest
  obtain ⟨ba, third, rest⟩ := Generation.run_bind_eq_value_iff.mp rest
  obtain ⟨product, firstProduct, rest⟩ := Generation.run_compute_bind_eq_value_iff.mp rest
  obtain ⟨back', secondProduct, rest⟩ := Generation.run_compute_bind_eq_value_iff.mp rest
  cases rest
  cases unchanged.of_eq_pure kept
  cases ((through.of_eq_pure first).of_eq_pure second).of_eq_ok firstProduct |>.of_eq_pure converted
  cases ((back.of_eq_pure first).of_eq_pure third).of_eq_ok secondProduct
  exact ⟨composed, computed, converted, kept⟩

end SquareMatrix

end CurveForge
