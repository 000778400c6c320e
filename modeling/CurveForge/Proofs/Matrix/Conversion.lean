import Mathlib
import CurveForge.Matrix.Elimination
import CurveForge.Proofs.Matrix.Elimination

/-!
# Conversion solves for the points

The matrix of a conversion, multiplied from the left by the target matrix, is the
source matrix. There is no such matrix exactly if the sizes differ or the target
is singular, and the error says which.
-/

namespace CurveForge.SquareMatrix

open Checked (Ends Yields Returns)

/-- A product of matrices of one size, as an equation between their values. -/
inductive Solves : SquareMatrix → SquareMatrix → SquareMatrix → Prop where
  | intro {n : Nat} {left solution right : Grid Fraction n}
      (product : left.values * solution.values = right.values) :
      Solves ⟨n, left⟩ ⟨n, solution⟩ ⟨n, right⟩

theorem Solves.size_eq {left solution right : SquareMatrix} (solves : Solves left solution right) :
    solution.size = left.size ∧ solution.size = right.size := by
  cases solves
  exact ⟨rfl, rfl⟩

theorem inverse?_yields {n : Nat} {grid : Grid Fraction n} (reduced : grid.Reduced) :
    Yields (inverse? ⟨n, grid⟩) fun result =>
      (result = none ∧ grid.values.det = 0) ∨
      ∃ inverse : Grid Fraction n, result = some ⟨n, inverse⟩ ∧ inverse.Reduced ∧
        inverse.values * grid.values = 1 := by
  apply (Grid.inverse?_yields reduced).bind
  intro result holds
  cases result with
  | none => exact .inl ⟨rfl, holds⟩
  | some inverse => exact .inr ⟨inverse, rfl, holds⟩

theorem mul_yields {n : Nat} {left right : Grid Fraction n} (leftReduced : left.Reduced)
    (rightReduced : right.Reduced) :
    Yields (mul ⟨n, left⟩ ⟨n, right⟩) fun product => ∃ grid : Grid Fraction n,
      product = ⟨n, grid⟩ ∧ grid.Reduced ∧ grid.values = left.values * right.values := by
  unfold mul
  rw [dif_pos rfl]
  exact (Grid.mul_yields leftReduced rightReduced).bind fun grid holds => ⟨grid, rfl, holds⟩

/-- What a conversion answers when no fraction is too large. -/
def ConversionAnswer (source target : SquareMatrix) :
    Except GenerationError SquareMatrix → Prop
  | .error reason =>
      (source.size ≠ target.size ∧ reason = .degreeMismatch source.size target.size) ∨
      (source.size = target.size ∧ target.determinant = 0 ∧
        reason = .singularBasisMatrix source target)
  | .ok solution =>
      source.size = target.size ∧ target.determinant ≠ 0 ∧ solution.Reduced ∧
        Solves target solution source

theorem conversion_of_size_ne {source target : SquareMatrix} (differ : source.size ≠ target.size) :
    (source.conversion target).run = .ok (.error (.degreeMismatch source.size target.size)) := by
  unfold conversion
  rw [if_pos differ]
  rfl

theorem conversion_of_size_eq {source target : SquareMatrix} (same : source.size = target.size) :
    (source.conversion target).run = target.inverse? >>= fun
      | none => .ok (.error (.singularBasisMatrix source target))
      | some inverse => Except.ok <$> inverse.mul source := by
  unfold conversion
  rw [if_neg (not_not.mpr same)]
  cases target.inverse? with
  | error fault => rfl
  | ok result =>
      cases result with
      | none => rfl
      | some inverse => rfl

/-- What is behind a conversion that answers: an inverse of the target and its product with the
source. -/
theorem parts_of_conversion {source target matrix : SquareMatrix}
    (converted : (source.conversion target).run = .ok (.ok matrix)) :
    ∃ inverse, target.inverse? = .ok (some inverse) ∧ inverse.mul source = .ok matrix := by
  by_cases same : source.size = target.size
  · rw [conversion_of_size_eq same] at converted
    obtain ⟨result, inverted, converted⟩ := Checked.bind_eq_ok_iff.mp converted
    cases result with
    | none => cases converted
    | some inverse =>
        obtain ⟨product, multiplied, done⟩ := Checked.bind_eq_ok_iff.mp converted
        cases done
        exact ⟨inverse, inverted, multiplied⟩
  · rw [conversion_of_size_ne same] at converted
    cases converted

theorem size_of_mul {a b product : SquareMatrix} (result : a.mul b = .ok product) :
    product.size = b.size := by
  unfold mul at result
  split at result
  next same =>
    obtain ⟨grid, -, done⟩ := Checked.bind_eq_ok_iff.mp result
    cases done
    exact same.symm
  next => cases result

/-- A conversion has the size of its source, whatever its entries are. -/
theorem size_of_conversion {source target matrix : SquareMatrix}
    (converted : source.conversion target = pure matrix) : matrix.size = source.size := by
  obtain ⟨inverse, -, product⟩ := parts_of_conversion converted
  exact size_of_mul product

theorem size_eq_of_conversion {source target matrix : SquareMatrix}
    (converted : source.conversion target = pure matrix) : source.size = target.size := by
  by_contra differ
  cases (conversion_of_size_ne differ).symm.trans converted

/-- A conversion answers the solution, or tells why there is none. -/
theorem conversion_yields {source target : SquareMatrix} (sourceReduced : source.Reduced)
    (targetReduced : target.Reduced) :
    Yields (source.conversion target).run (ConversionAnswer source target) := by
  by_cases same : source.size = target.size
  · rw [conversion_of_size_eq same]
    obtain ⟨n, sourceGrid⟩ := source
    obtain ⟨m, targetGrid⟩ := target
    cases same
    apply (inverse?_yields targetReduced).bind
    intro result holds
    rcases holds with ⟨rfl, singular⟩ | ⟨inverse, rfl, inverseReduced, isInverse⟩
    · exact .inr ⟨rfl, singular, rfl⟩
    · apply (mul_yields inverseReduced sourceReduced).map
      intro product holds
      obtain ⟨grid, rfl, reduced, values⟩ := holds
      refine ⟨rfl, Matrix.det_ne_zero_of_left_inverse isInverse, reduced, .intro ?_⟩
      rw [values, ← Matrix.mul_assoc, mul_eq_one_comm.mp isInverse, Matrix.one_mul]
  · rw [conversion_of_size_ne same]
    exact .inl ⟨same, rfl⟩

section Kinds

variable {allowed : Fault → Prop} {kind : Fraction → Prop} {n : Nat} {source target : SquareMatrix}

theorem inverse?_ends (closed : Fraction.Closed allowed kind) {grid : Grid Fraction n}
    (each : grid.Each kind) :
    Ends allowed (inverse? ⟨n, grid⟩) fun result =>
      result = none ∨ ∃ inverse : Grid Fraction n, result = some ⟨n, inverse⟩ ∧ inverse.Each kind := by
  apply (Grid.inverse?_ends closed each).bind
  intro result holds
  cases result with
  | none => exact .inl rfl
  | some inverse => exact .inr ⟨inverse, rfl, holds inverse rfl⟩

theorem mul_ends (closed : Fraction.Closed allowed kind) {left right : Grid Fraction n}
    (leftEach : left.Each kind) (rightEach : right.Each kind) :
    Ends allowed (mul ⟨n, left⟩ ⟨n, right⟩) fun product => product.grid.Each kind := by
  unfold mul
  rw [dif_pos rfl]
  exact (Grid.mul_ends closed leftEach rightEach).bind fun grid each => each

/-- A conversion keeps the kind of the entries, if arithmetic does. -/
theorem conversion_ends (closed : Fraction.Closed allowed kind) (sourceEach : source.grid.Each kind)
    (targetEach : target.grid.Each kind) :
    Ends allowed (source.conversion target).run fun answer =>
      ∀ matrix, answer = .ok matrix → matrix.grid.Each kind := by
  by_cases same : source.size = target.size
  · rw [conversion_of_size_eq same]
    obtain ⟨n, sourceGrid⟩ := source
    obtain ⟨m, targetGrid⟩ := target
    cases same
    apply (inverse?_ends closed targetEach).bind
    rintro result (rfl | ⟨inverse, rfl, inverseEach⟩)
    · rintro _ ⟨⟩
    · apply (mul_ends closed inverseEach sourceEach).map
      rintro product each _ ⟨⟩
      exact each
  · rw [conversion_of_size_ne same]
    rintro _ ⟨⟩

/-- A conversion of matrices of numbers is a matrix of numbers of the same size. -/
theorem conversion_returns (sourceNumeric : source.Numeric) (targetNumeric : target.Numeric) :
    Returns (source.conversion target).run fun answer => ∀ matrix, answer = .ok matrix →
      matrix.size = source.size ∧ matrix.Numeric := by
  have numeric := conversion_ends Fraction.closed_isNumber sourceNumeric targetNumeric
  refine Checked.returns_iff.mpr fun answer answered matrix same => ?_
  subst same
  exact ⟨size_of_conversion answered, numeric.of_eq_ok answered matrix rfl⟩

theorem isSome_inverse?_returns (numeric : target.Numeric) :
    Returns target.inverse? fun result => result.isSome = true ↔ target.determinant ≠ 0 := by
  apply (Grid.inverse?_returns numeric).bind
  intro result holds
  cases result with
  | none => exact iff_of_false Bool.false_ne_true (not_not.mpr holds)
  | some inverse => exact iff_of_true rfl (Matrix.det_ne_zero_of_left_inverse holds)

/-- Whatever the entries of the source are, it is converted into a basis of numbers exactly if the
sizes agree and the target is regular. -/
theorem conversion_decides (targetNumeric : target.Numeric) :
    Returns (source.conversion target).run fun answer =>
      (∃ matrix, answer = .ok matrix) ↔ source.size = target.size ∧ target.determinant ≠ 0 := by
  by_cases same : source.size = target.size
  · rw [conversion_of_size_eq same]
    apply (isSome_inverse?_returns targetNumeric).bind
    intro result holds
    cases result with
    | none => exact iff_of_false (by rintro ⟨_, ⟨⟩⟩) fun both => nomatch holds.mpr both.2
    | some inverse =>
        have multiplied : Returns (inverse.mul source) fun _ => True :=
          Checked.returns_iff.mpr fun _ _ => trivial
        exact multiplied.map fun product _ => iff_of_true ⟨product, rfl⟩ ⟨same, holds.mp rfl⟩
  · rw [conversion_of_size_ne same]
    exact iff_of_false (by rintro ⟨_, ⟨⟩⟩) fun both => same both.1

end Kinds

end CurveForge.SquareMatrix
