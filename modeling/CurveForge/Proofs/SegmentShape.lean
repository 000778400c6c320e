import Mathlib
import CurveForge.Proofs.Matrix.InPlace
import CurveForge.Proofs.Naming.Identity
import CurveForge.Proofs.Segment
import CurveForge.Proofs.Subdivision

/-!
# The shape of segments

A segment starts with the number of points that its family wants. Conversions, halves
and blends keep it so, also where they do not test it again: a conversion is refused
between sizes that differ, and two types with one stem have one degree. The operations
on such a segment never lack a point, nor room for one.
-/

namespace CurveForge

/-- Without a dimension too, the name of a type tells the degree. -/
theorem Family.degree_eq_of_typeStem {f g : Family} {word other : String}
    (worded : degreeName .short f.degree = .ok word)
    (otherWorded : degreeName .short g.degree = .ok other) (same : f.typeStem = g.typeStem) :
    f.degree = g.degree := by
  have spelled := congrArg String.toList same
  rw [typeStem, typeStem, worded, otherWorded, String.toList_append, String.toList_append] at spelled
  exact (tellsDegrees_toList.word_inj worded otherWorded spelled).2

namespace Segment

variable {S : Type} {d : Nat} {f g : Family} {points : List (Point S d)} {a b c s : Segment S d}

/-- The segment has as many points as its family wants and its matrix has rows, and room for them.
-/
structure Shaped (s : Segment S d) : Prop where
  accepted : s.family.validate = pure ()
  count : s.family.pointCount = .ok s.points.length
  size : s.family.matrix.size = s.points.length
  room : s.points.length ≤ capacity

theorem shaped_of_validate (accepted : f.validate = pure ()) (same : points.length = f.degree + 1)
    (room : points.length ≤ capacity) : Shaped ⟨f, points⟩ where
  accepted := accepted
  count := by
    rw [same]
    exact if_pos (Family.validate_eq_pure_iff.mp accepted).1
  size := (Family.WellFormed.of_validate accepted).matrix_size.trans same.symm
  room := room

theorem shaped_of_ofPoints? (accepted : f.validate = pure ())
    (made : ofPoints? f points = .ok (some s)) : s.Shaped := by
  obtain ⟨rfl, same, room⟩ := ofPoints?_eq_some made
  exact shaped_of_validate accepted same room

namespace Shaped

variable (shaped : s.Shaped)

include shaped

theorem length_eq : s.points.length = s.family.degree + 1 :=
  shaped.size.symm.trans (Family.WellFormed.of_validate shaped.accepted).matrix_size

theorem matrix_room : s.family.matrix.size ≤ capacity := shaped.size.trans_le shaped.room

theorem withPoints (same : points.length = s.points.length) : Shaped ⟨s.family, points⟩ :=
  shaped_of_validate shaped.accepted (same.trans shaped.length_eq) (same.trans_le shaped.room)

theorem exists_word : ∃ word, degreeName .short s.family.degree = .ok word := by
  have few : s.family.degree + 1 ≤ 4 := shaped.length_eq.symm.trans_le shaped.room
  exact degreeName_of_le .short (Family.WellFormed.of_validate shaped.accepted).degree_pos (by omega)

end Shaped

section Steps

variable [Scalar S] {t : S}

theorem lerp?_eq_some_iff :
    lerp? a b t = some c ↔ a.family.typeStem = b.family.typeStem ∧
      ⟨a.family, (a.points.zip b.points).map fun pair => Point.lerp t pair.1 pair.2⟩ = c := by
  rw [lerp?, Option.ite_none_right_eq_some, Option.some_inj]

/-- Segments with types of one stem have equally many points, so none is left out of a blend. -/
theorem Shaped.length_eq_of_lerp? (shaped : a.Shaped) (other : b.Shaped)
    (blended : lerp? a b t = some c) : a.points.length = b.points.length := by
  obtain ⟨same, -⟩ := lerp?_eq_some_iff.mp blended
  obtain ⟨word, worded⟩ := shaped.exists_word
  obtain ⟨otherWord, otherWorded⟩ := other.exists_word
  rw [shaped.length_eq, other.length_eq, Family.degree_eq_of_typeStem worded otherWorded same]

theorem Shaped.blend (shaped : a.Shaped) (other : b.Shaped) (blended : lerp? a b t = some c) :
    c.Shaped ∧ c.points.length = a.points.length := by
  have same := shaped.length_eq_of_lerp? other blended
  obtain ⟨-, rfl⟩ := lerp?_eq_some_iff.mp blended
  have length : ((a.points.zip b.points).map fun pair => Point.lerp t pair.1 pair.2).length =
      a.points.length := by
    rw [List.length_map, List.length_zip, same, Nat.min_self]
  exact ⟨shaped.withPoints length, length⟩

theorem Shaped.convert (shaped : s.Shaped) (accepted : g.validate = pure ())
    (converted : s.convertTo g = pure c) : c.Shaped := by
  obtain ⟨matrix, conversion, rfl⟩ := (convertTo_eq_pure_iff shaped.matrix_room).mp converted
  have fits := Family.WellFormed.of_validate accepted
  have rows : (matrix.rows.map fun row => Point.weightedSum row s.points).length =
      s.family.matrix.size := by
    rw [List.length_map, SquareMatrix.length_rows, SquareMatrix.size_of_conversion conversion]
  apply shaped_of_validate accepted
  · rw [rows, SquareMatrix.size_eq_of_conversion conversion, fits.matrix_size]
  · exact rows.trans_le shaped.matrix_room

theorem Shaped.halves (shaped : s.Shaped) (splittable : s.family.splittable = true) (t : S) :
    ∃ first second, s.split? t = .ok (some (first, second)) ∧ first.Shaped ∧ second.Shaped := by
  obtain ⟨points, spelled⟩ := Casteljau.exists_map_range shaped.length_eq
  obtain ⟨family, all⟩ := s
  dsimp only at spelled
  subst spelled
  refine ⟨_, _, split?_map_range splittable points _, shaped.withPoints ?_, shaped.withPoints ?_⟩
  · simp
  · simp

theorem Shaped.of_split? (shaped : s.Shaped) {first second : Segment S d}
    (halved : s.split? t = .ok (some (first, second))) : first.Shaped ∧ second.Shaped := by
  have splittable : s.family.splittable = true := by
    by_contra whole
    rw [Segment.split?, Bool.eq_false_iff.mpr whole] at halved
    cases halved
  obtain ⟨front, back, found, shapes⟩ := shaped.halves splittable t
  cases found.symm.trans halved
  exact shapes

theorem Shaped.coefficients_eq (shaped : s.Shaped) :
    s.coefficients = .ok (s.family.matrix.rows.map fun row => Point.weightedSum row s.points) :=
  rowPoints_of_size shaped.matrix_room

/-- A conversion into an accepted family ends without an answer only in a fault of arithmetic. -/
theorem Shaped.convertTo_ends (shaped : s.Shaped) (accepted : g.validate = pure ()) :
    Checked.Ends Fault.IsArithmetic (s.convertTo g).run fun answer => g.matrix.Numeric →
      ((∃ converted, answer = .ok converted) ↔
        s.family.degree = g.degree ∧ g.matrix.determinant ≠ 0) := by
  have sizes : s.family.matrix.size = g.matrix.size ↔ s.family.degree = g.degree := by
    rw [shaped.size, shaped.length_eq, (Family.WellFormed.of_validate accepted).matrix_size,
      Nat.add_right_cancel_iff]
  have faults : Checked.Ends Fault.IsArithmetic (s.family.matrix.conversion g.matrix).run
      fun _ => True :=
    (SquareMatrix.conversion_ends Fraction.closed_any (fun _ _ => trivial)
      fun _ _ => trivial).mono fun _ _ => trivial
  have decides : Checked.Returns (s.family.matrix.conversion g.matrix).run fun answer =>
      g.matrix.Numeric → ((∃ matrix, answer = .ok matrix) ↔
        s.family.degree = g.degree ∧ g.matrix.determinant ≠ 0) := by
    refine Checked.returns_iff.mpr fun answer answered numeric => ?_
    rw [← sizes]
    exact (SquareMatrix.conversion_decides numeric).of_eq_ok answered
  rw [run_convertTo shaped.matrix_room]
  refine (faults.and_returns decides).map fun answer holds numeric => ?_
  rw [← holds.2 numeric]
  cases answer <;> simp [Except.map]

end Steps

section Runs

variable [Scalar S]

/-- The segments that can be made out of points of accepted families. -/
inductive Reachable : Segment S d → Prop where
  | start {f : Family} {points : List (Point S d)} {s : Segment S d}
      (accepted : f.validate = pure ()) (made : ofPoints? f points = .ok (some s)) : Reachable s
  | convert {s converted : Segment S d} {g : Family} (reached : Reachable s)
      (accepted : g.validate = pure ()) (result : s.convertTo g = pure converted) :
      Reachable converted
  | first {s first second : Segment S d} {t : S} (reached : Reachable s)
      (result : s.split? t = .ok (some (first, second))) : Reachable first
  | second {s first second : Segment S d} {t : S} (reached : Reachable s)
      (result : s.split? t = .ok (some (first, second))) : Reachable second
  | blend {a b c : Segment S d} {t : S} (left : Reachable a) (right : Reachable b)
      (result : lerp? a b t = some c) : Reachable c

/-- Every operation finds the points it reads and room for those it answers. Only arithmetic can
keep a conversion from an answer, which is a segment exactly between equal degrees and for a
regular target. -/
structure Operates (s : Segment S d) : Prop where
  coefficients : ∃ values, s.coefficients = .ok values ∧ values.length = s.points.length
  sample (t : S) : ∃ p, s.sample t = .ok p
  levels (t : S) : s.splitByLevels? t = s.split? t
  halves (t : S) : if s.family.splittable then ∃ halves, s.split? t = .ok (some halves)
    else s.split? t = .ok none
  blend {b c : Segment S d} {t : S} (other : b.Shaped) (result : lerp? s b t = some c) :
    b.points.length = s.points.length ∧ c.points.length = s.points.length
  inversion {g : Family} (accepted : g.validate = pure ()) (same : s.family.degree = g.degree) :
    g.matrix.inverseInPlace? = g.matrix.inverse?
  convert {g : Family} (accepted : g.validate = pure ()) :
    Checked.Ends Fault.IsArithmetic (s.convertTo g).run fun answer => g.matrix.Numeric →
      ((∃ converted, answer = .ok converted) ↔
        s.family.degree = g.degree ∧ g.matrix.determinant ≠ 0)

theorem Shaped.operates (shaped : s.Shaped) : s.Operates where
  coefficients := ⟨_, shaped.coefficients_eq, by
    rw [List.length_map, SquareMatrix.length_rows, shaped.size]⟩
  sample t := by
    rw [Segment.sample, shaped.coefficients_eq]
    exact ⟨_, rfl⟩
  levels t := splitByLevels?_eq_split? shaped.room
  halves t := by
    split
    next splittable =>
      obtain ⟨first, second, halved, -⟩ := shaped.halves splittable t
      exact ⟨_, halved⟩
    next whole =>
      rw [Segment.split?, Bool.eq_false_iff.mpr whole]
      rfl
  blend other result :=
    ⟨(shaped.length_eq_of_lerp? other result).symm, (shaped.blend other result).2⟩
  inversion {g} accepted same := by
    have size : g.matrix.size = s.points.length := by
      rw [(Family.WellFormed.of_validate accepted).matrix_size, shaped.length_eq, same]
    apply SquareMatrix.inverseInPlace?_eq
    calc g.matrix.size * g.matrix.size ≤ capacity * capacity :=
          Nat.mul_le_mul (size.trans_le shaped.room) (size.trans_le shaped.room)
      _ < Word.limit := by decide
  convert accepted := shaped.convertTo_ends accepted

/-- However it was made, a segment has the shape that its family wants, so every operation on it
finds the points it reads and room for those it answers. -/
theorem operates_of_reachable (reached : s.Reachable) : s.Shaped ∧ s.Operates := by
  have shaped : s.Shaped := by
    induction reached with
    | start accepted made => exact shaped_of_ofPoints? accepted made
    | convert reached accepted result ih => exact ih.convert accepted result
    | first reached result ih => exact (ih.of_split? result).1
    | second reached result ih => exact (ih.of_split? result).2
    | blend left right result leftShaped rightShaped =>
        exact (leftShaped.blend rightShaped result).1
  exact ⟨shaped, shaped.operates⟩

end Runs

instance [DecidableEq S] : DecidableEq (Segment S d) := fun a b =>
  decidable_of_iff (a.family = b.family ∧ a.points = b.points) (by
    cases a
    cases b
    simp)

def planar (x y : ℚ) : Point ℚ 2 := #v[x, y]

def convertedHermite : Segment ℚ 2 :=
  ⟨Catalog.bezierCubic, [planar 0 0, planar 1 0, planar 1 (-1 / 2), planar 1 (1 / 2)]⟩

def halvedHermite : Segment ℚ 2 :=
  ⟨Catalog.bezierCubic,
    [planar 0 0, planar (1 / 2) 0, planar (3 / 4) (-1 / 8), planar (7 / 8) (-1 / 8)]⟩

def blendedHermite : Segment ℚ 2 :=
  ⟨Catalog.bezierCubic,
    [planar 0 0, planar (3 / 4) 0, planar (7 / 8) (-5 / 16), planar (15 / 16) (3 / 16)]⟩

/-- A curve that was converted, halved and blended with its half. -/
theorem operates_of_reachable_hermite :
    hermiteSegment.convertTo Catalog.bezierCubic = pure convertedHermite ∧
    (∃ second, convertedHermite.split? (1 / 2) = .ok (some (halvedHermite, second))) ∧
    lerp? convertedHermite halvedHermite (1 / 2) = some blendedHermite ∧
    blendedHermite.Reachable ∧ blendedHermite.Shaped ∧ blendedHermite.Operates := by
  have converted : hermiteSegment.convertTo Catalog.bezierCubic = pure convertedHermite :=
    show (hermiteSegment.convertTo Catalog.bezierCubic).run = .ok (.ok convertedHermite) by
      decide +kernel
  have halved : convertedHermite.split? (1 / 2) = .ok (some (halvedHermite, ⟨Catalog.bezierCubic,
      [planar (7 / 8) (-1 / 8), planar 1 (-1 / 8), planar 1 0, planar 1 (1 / 2)]⟩)) := by
    decide +kernel
  have blended : lerp? convertedHermite halvedHermite (1 / 2) = some blendedHermite := by
    decide +kernel
  have made : ofPoints? Catalog.hermite hermiteSegment.points = .ok (some hermiteSegment) := rfl
  have start : Reachable hermiteSegment := .start (by rfl) made
  have whole : Reachable convertedHermite := start.convert (by rfl) converted
  have reached : Reachable blendedHermite := .blend whole (whole.first halved) blended
  exact ⟨converted, ⟨_, halved⟩, blended, reached, operates_of_reachable reached⟩

end Segment

end CurveForge
