import CurveForge.Catalog.Basic
import CurveForge.Matrix.Elimination

/-!
# Segments

Blending every two neighbours of a row of points gives a row that is one point
shorter. Repeated down to a single point, the rows form a triangle whose edges
are the control points of the two halves of the curve.

A segment is a family together with control points whose components are numbers
of any kind that fractions can be turned into. It is evaluated through the
characteristic matrix of its family. A segment has room for four points.

Sums start at zero and are taken from left to right, which matters for numbers
that are rounded.
-/

namespace CurveForge

namespace Casteljau

variable {α : Type}

/-- Every entry of a list with the next one. -/
def neighbours (row : List α) : List (α × α) := row.zip row.tail

def rowsFrom (blend : α → α → α) : Nat → List α → List (List α)
  | 0, row => [row]
  | count + 1, row =>
      row :: rowsFrom blend count ((neighbours row).map fun pair => blend pair.1 pair.2)

def triangle (blend : α → α → α) (points : List α) : List (List α) :=
  rowsFrom blend (points.length - 1) points

/-- The first entries of all rows downwards, and their last entries upwards. -/
def edges (rows : List (List α)) : List α × List α :=
  (rows.filterMap List.head?, (rows.filterMap List.getLast?).reverse)

end Casteljau

/-- Numbers with the operations that a segment needs. -/
class Scalar (S : Type) extends Zero S, Add S, Sub S, Mul S where
  ofFraction : Fraction → S

instance : Scalar Float where
  zero := 0.0
  ofFraction := Fraction.toFloat

abbrev Point (S : Type) (d : Nat) := Vector S d

namespace Point

variable {S : Type} [Scalar S] {d : Nat}

def origin : Point S d := Vector.replicate d 0

def add (p q : Point S d) : Point S d := Vector.zipWith (· + ·) p q

def scale (p : Point S d) (factor : S) : Point S d := Vector.map (· * factor) p

def lerp (t : S) (p q : Point S d) : Point S d := Vector.zipWith (fun a b => a + (b - a) * t) p q

/-- The sum of weighted points; weights and points are paired, the longer list is cut. -/
def weightedSum (weights : List Fraction) (points : List (Point S d)) : Point S d :=
  (weights.zip points).foldl (fun sum pair => add sum (scale pair.2 (Scalar.ofFraction pair.1))) origin

end Point

structure Segment (S : Type) (d : Nat) where
  family : Family
  points : List (Point S d)

namespace Segment

variable {S : Type} [Scalar S] {d : Nat}

/-- The number of points that a segment has room for. -/
def capacity : Nat := 4

def rowPoints (rows : List (List Fraction)) (points : List (Point S d)) :
    Checked (List (Point S d)) :=
  if rows.length ≤ capacity then .ok (rows.map fun row => Point.weightedSum row points)
  else .error .capacityExceeded

/-- The segment with the given points, if there are as many as the family wants and not too many. -/
def ofPoints? (f : Family) (points : List (Point S d)) : Checked (Option (Segment S d)) := do
  let count ← f.pointCount
  return if points.length = count && points.length ≤ capacity then some ⟨f, points⟩ else none

def coefficients (s : Segment S d) : Checked (List (Point S d)) :=
  rowPoints s.family.matrix.rows s.points

/-- The point at a parameter, evaluated from the highest power down. -/
def sample (s : Segment S d) (t : S) : Checked (Point S d) := do
  let coefficients ← s.coefficients
  return coefficients.reverse.foldl (fun sum c => (sum.scale t).add c) Point.origin

def convertTo (s : Segment S d) (target : Family) : Generation (Segment S d) := do
  let matrix ← s.family.matrix.conversion target.matrix
  let points ← rowPoints matrix.rows s.points
  return ⟨target, points⟩

/-- The parts of the curve before and after a parameter, unless the family cannot be split. -/
def split? (s : Segment S d) (t : S) : Checked (Option (Segment S d × Segment S d)) :=
  if !s.family.splittable then .ok none
  else if s.points.isEmpty then .error .outOfBounds
  else
    let halves := Casteljau.edges (Casteljau.triangle (Point.lerp t) s.points)
    .ok (some (⟨s.family, halves.1⟩, ⟨s.family, halves.2⟩))

def lerp? (a b : Segment S d) (t : S) : Option (Segment S d) :=
  if a.family.typeStem = b.family.typeStem then
    some ⟨a.family, (a.points.zip b.points).map fun pair => Point.lerp t pair.1 pair.2⟩
  else none

end Segment

end CurveForge
