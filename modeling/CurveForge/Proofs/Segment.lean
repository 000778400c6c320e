import Mathlib
import CurveForge.Catalog.Standard
import CurveForge.Proofs.Formula.Conversion
import CurveForge.Proofs.Matrix.Conversion
import CurveForge.Segment

/-!
# Segments and formulas

A segment computes with numbers what the formulas of its family spell. For exact
numbers both agree: coefficients and converted points are, component by component,
the values of the formulas at the control points.
-/

namespace CurveForge

open Reading

/-- Exact numbers; a fraction is the quotient of its words. -/
instance : Scalar ℚ where
  ofFraction := Fraction.value

namespace Point

variable {d : Nat}

theorem get_origin (i : Fin d) : (origin : Point ℚ d).get i = 0 := by
  simp [origin, Vector.get_eq_getElem]

theorem get_add (p q : Point ℚ d) (i : Fin d) : (add p q).get i = p.get i + q.get i := by
  simp [add, Vector.get_eq_getElem]

theorem get_scale (p : Point ℚ d) (factor : ℚ) (i : Fin d) :
    (scale p factor).get i = p.get i * factor := by
  simp [scale, Vector.get_eq_getElem]

def components (points : List (Point ℚ d)) (i : Fin d) : List ℚ := points.map fun p => p.get i

/-- A sum of weighted points is a sum of products in every component. -/
theorem get_weightedSum (weights : List Fraction) (points : List (Point ℚ d)) (i : Fin d) :
    (weightedSum weights points).get i =
      ((weights.zip (components points i)).map fun pair => pair.1.value * pair.2).sum := by
  have run (pairs : List (Fraction × Point ℚ d)) (total : Point ℚ d) :
      (pairs.foldl (fun sum pair => add sum (scale pair.2 (Scalar.ofFraction pair.1))) total).get i =
        total.get i + (pairs.map fun pair => pair.1.value * pair.2.get i).sum := by
    induction pairs generalizing total with
    | nil => simp
    | cons pair rest ih =>
        have weight : (Scalar.ofFraction pair.1 : ℚ) = pair.1.value := rfl
        rw [List.foldl_cons, ih, get_add, get_scale, weight, List.map_cons, List.sum_cons,
          mul_comm, add_assoc]
  rw [weightedSum, run, get_origin, zero_add, components, List.zip_map_right, List.map_map]
  rfl

end Point

namespace Segment

open Point

section Numbers

variable {S : Type} {d : Nat} {f g : Family} {points : List (Point S d)} {s : Segment S d}

theorem ofPoints?_eq_some (made : ofPoints? f points = .ok (some s)) :
    s = ⟨f, points⟩ ∧ points.length = f.degree + 1 ∧ points.length ≤ capacity := by
  obtain ⟨count, counted, chosen⟩ := Checked.bind_eq_ok_iff.mp made
  have degree : count = f.degree + 1 := by
    unfold Family.pointCount Word.add at counted
    split at counted
    · exact (Except.ok.inj counted).symm
    · cases counted
  by_cases fits : (points.length = count && points.length ≤ capacity) = true
  · rw [if_pos fits] at chosen
    cases chosen
    simp only [Bool.and_eq_true, decide_eq_true_eq] at fits
    exact ⟨rfl, fits.1.trans degree, fits.2⟩
  · rw [if_neg fits] at chosen
    cases chosen

variable [Scalar S]

theorem rowPoints_of_size {m : SquareMatrix} (room : m.size ≤ capacity) :
    rowPoints m.rows points = .ok (m.rows.map fun row => weightedSum row points) :=
  if_pos (by rwa [SquareMatrix.length_rows])

/-- If there is room for its rows, only the conversion of the matrices can keep a segment from being
converted. -/
theorem run_convertTo (room : s.family.matrix.size ≤ capacity) :
    (s.convertTo g).run =
      Except.map (fun matrix => ⟨g, matrix.rows.map fun row => weightedSum row s.points⟩) <$>
        (s.family.matrix.conversion g.matrix).run := by
  unfold convertTo
  cases answer : (s.family.matrix.conversion g.matrix).run with
  | error fault =>
      rw [Generation.run_bind_of_fault answer]
      rfl
  | ok verdict =>
      cases verdict with
      | error reason =>
          rw [Generation.run_bind_of_reason answer]
          rfl
      | ok matrix =>
          have inside : matrix.size ≤ capacity := by
            rwa [SquareMatrix.size_of_conversion answer]
          rw [Generation.run_bind_of_value answer, rowPoints_of_size inside, Generation.compute_bind]
          rfl

theorem convertTo_eq_pure_iff {converted : Segment S d} (room : s.family.matrix.size ≤ capacity) :
    s.convertTo g = pure converted ↔ ∃ matrix, s.family.matrix.conversion g.matrix = pure matrix ∧
      converted = ⟨g, matrix.rows.map fun row => weightedSum row s.points⟩ := by
  change (s.convertTo g).run = .ok (.ok converted) ↔
    ∃ matrix, (s.family.matrix.conversion g.matrix).run = .ok (.ok matrix) ∧ _
  rw [run_convertTo room]
  cases (s.family.matrix.conversion g.matrix).run with
  | error fault => simp
  | ok verdict => cases verdict <;> simp [Except.map, eq_comm]

end Numbers

variable {d : Nat} {f g : Family} {points : List (Point ℚ d)} {s : Segment ℚ d}
  {style : NumberStyle}

/-- The texts spell the values at the control points, one text for each value. -/
structure Spells (names : List String) (points : List (Point ℚ d)) (texts : List String)
    (values : List (Point ℚ d)) : Prop where
  length : values.length = texts.length
  component (i : Fin d) :
    evaluateAll (assign names (components points i)) texts = some (components values i)

theorem components_rows (m : SquareMatrix) (points : List (Point ℚ d)) (i : Fin d) :
    components (m.rows.map fun row => weightedSum row points) i = m.applied (components points i) := by
  rw [components, List.map_map, SquareMatrix.applied]
  apply List.map_congr_left
  intro row _
  exact get_weightedSum row points i

/-- The points of the rows have the values that the formulas of the rows spell. -/
theorem rowPoints_spelled {m : SquareMatrix} {names : List String} {formulas : List Formula}
    (numeric : m.Numeric) (identifiers : ∀ name ∈ names, isIdentifier name = true)
    (nodup : names.Nodup) (written : m.formulas names style = .ok formulas)
    (same : points.length = names.length) (room : m.size ≤ capacity) :
    ∃ values, rowPoints m.rows points = .ok values ∧
      Spells names points (formulas.map Formula.text) values := by
  have inside : m.rows.length ≤ capacity := by rwa [SquareMatrix.length_rows]
  have count := (SquareMatrix.renders_of_formulas numeric written).length_eq
  refine ⟨_, if_pos inside, ?_, ?_⟩
  · rw [List.length_map, List.length_map, count]
  · intro i
    rw [components_rows]
    have width : (components points i).length = names.length := by
      rw [components, List.length_map, same]
    exact SquareMatrix.evaluate_formulas numeric identifiers nodup written width

/-- Only the conversion of the matrices can be refused. -/
theorem convertTo_eq_reason_iff {reason : GenerationError} :
    (s.convertTo g).run = .ok (.error reason) ↔
      (s.family.matrix.conversion g.matrix).run = .ok (.error reason) := by
  unfold convertTo
  rw [Generation.run_bind_eq_reason_iff]
  refine or_iff_left ?_
  rintro ⟨matrix, -, refused⟩
  obtain ⟨values, -, done⟩ := Generation.run_compute_bind_eq_reason_iff.mp refused
  cases done

theorem conversionRows_eq_reason_iff {reason : GenerationError} :
    (conversionRows f g style).run = .ok (.error reason) ↔
      (f.matrix.conversion g.matrix).run = .ok (.error reason) := by
  unfold conversionRows
  rw [Generation.run_bind_eq_reason_iff]
  refine or_iff_left ?_
  rintro ⟨matrix, -, refused⟩
  obtain ⟨formulas, -, done⟩ := Generation.run_compute_bind_eq_reason_iff.mp refused
  cases done

theorem convertTo_eq_pure {matrix : SquareMatrix} {values : List (Point ℚ d)}
    (conversion : s.family.matrix.conversion g.matrix = pure matrix)
    (computed : rowPoints matrix.rows s.points = .ok values) :
    s.convertTo g = pure ⟨g, values⟩ :=
  Generation.run_bind_eq_value_iff.mpr
    ⟨matrix, conversion, Generation.run_compute_bind_pure_iff.mpr ⟨values, computed, rfl⟩⟩

/-- A segment computes the values that the formulas of its family spell, and it is converted or
refused as they are. -/
theorem computes_formulas (accepted : f.validate = pure ()) (numeric : f.matrix.Numeric)
    (targetNumeric : g.matrix.Numeric)
    (identifiers : ∀ name ∈ f.pointNames, isIdentifier name = true)
    (made : ofPoints? f points = .ok (some s)) (style : NumberStyle) :
    (∀ rows, polynomialRows f style = .ok rows → ∃ coefficients,
      s.coefficients = .ok coefficients ∧ Spells f.pointNames points rows coefficients) ∧
    (∀ reason, (s.convertTo g).run = .ok (.error reason) ↔
      (conversionRows f g style).run = .ok (.error reason)) ∧
    ∀ rows, conversionRows f g style = pure rows → ∃ converted,
      s.convertTo g = pure converted ∧ converted.family = g ∧
        Spells f.pointNames points rows converted.points := by
  obtain ⟨rfl, count, room⟩ := ofPoints?_eq_some made
  have fits := Family.WellFormed.of_validate accepted
  have same : points.length = f.pointNames.length := by rw [count, fits.name_count]
  have size : f.matrix.size ≤ capacity := by rwa [fits.matrix_size, ← count]
  refine ⟨?_, ?_, ?_⟩
  · intro rows polynomial
    obtain ⟨formulas, written, rfl⟩ := polynomialRows_eq_ok_iff.mp polynomial
    exact rowPoints_spelled numeric identifiers fits.names_nodup written same size
  · intro reason
    rw [convertTo_eq_reason_iff, conversionRows_eq_reason_iff]
  · intro rows spelled
    obtain ⟨matrix, formulas, conversion, written, rfl⟩ := conversionRows_eq_pure_iff.mp spelled
    obtain ⟨sizes, matrixNumeric⟩ :=
      (SquareMatrix.conversion_returns numeric targetNumeric).of_eq_ok conversion matrix rfl
    obtain ⟨values, computed, spells⟩ := rowPoints_spelled matrixNumeric identifiers
      fits.names_nodup written same (sizes ▸ size)
    exact ⟨⟨g, values⟩, convertTo_eq_pure conversion computed, rfl, spells⟩

def hermiteSegment : Segment ℚ 2 :=
  ⟨Catalog.hermite, [#v[0, 0], #v[3, 0], #v[1, 1 / 2], #v[0, 3]]⟩

/-- The coefficients of this curve and its conversion into a Bézier curve. -/
theorem computes_formulas_hermite :
    ofPoints? Catalog.hermite hermiteSegment.points = .ok (some hermiteSegment) ∧
    (∃ coefficients, hermiteSegment.coefficients = .ok coefficients ∧
      Spells Catalog.hermite.pointNames hermiteSegment.points
        ["p0", "v0", "-3*p0-2*v0+3*p1-v1", "2*p0+v0-2*p1+v1"] coefficients) ∧
    ∃ converted, hermiteSegment.convertTo Catalog.bezierCubic = pure converted ∧
      converted.family = Catalog.bezierCubic ∧
      Spells Catalog.hermite.pointNames hermiteSegment.points
        ["p0", "p0+(1.0/3.0)*v0", "p1-(1.0/3.0)*v1", "p1"] converted.points := by
  have made : ofPoints? Catalog.hermite hermiteSegment.points = .ok (some hermiteSegment) := rfl
  have spelled : conversionRows Catalog.hermite Catalog.bezierCubic .integer =
      pure ["p0", "p0+(1.0/3.0)*v0", "p1-(1.0/3.0)*v1", "p1"] :=
    show (conversionRows Catalog.hermite Catalog.bezierCubic .integer).run = .ok (.ok _) by
      decide +kernel
  obtain ⟨computes, -, converts⟩ := computes_formulas (g := Catalog.bezierCubic) (by rfl)
    (by decide +kernel) (by decide +kernel) (by decide +kernel) made .integer
  exact ⟨made, computes _ (by decide +kernel), converts _ spelled⟩

end Segment

end CurveForge
