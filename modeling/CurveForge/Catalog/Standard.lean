import CurveForge.Catalog.Basic
import CurveForge.Matrix.Square

/-!
# The standard catalog

The known families are Bézier curves of degree three and two, Hermite and
Catmull-Rom curves, and uniform B-splines. Row `r` of a characteristic matrix
holds the weights of the control points in the coefficient of the power `r` of
the curve parameter.
-/

namespace CurveForge

namespace Basis

private def ofIntegers {n : Nat} (rows : Vector (Vector Int64 n) n) : SquareMatrix :=
  ⟨n, Grid.map Fraction.ofInt64 ⟨rows⟩⟩

def quadraticBezier : SquareMatrix :=
  ofIntegers #v[
    #v[1, 0, 0],
    #v[-2, 2, 0],
    #v[1, -2, 1]]

def cubicBezier : SquareMatrix :=
  ofIntegers #v[
    #v[1, 0, 0, 0],
    #v[-3, 3, 0, 0],
    #v[3, -6, 3, 0],
    #v[-1, 3, -3, 1]]

/-- End points and end velocities, in the order start point, start velocity, end point, end
velocity. -/
def cubicHermite : SquareMatrix :=
  ofIntegers #v[
    #v[1, 0, 0, 0],
    #v[0, 1, 0, 0],
    #v[-3, -2, 3, -1],
    #v[2, 1, -2, 1]]

def cubicCatmullRom : SquareMatrix :=
  ⟨4, ⟨#v[
    #v[0, 1, 0, 0],
    #v[⟨-1, 2⟩, 0, ⟨1, 2⟩, 0],
    #v[1, ⟨-5, 2⟩, ⟨2, 1⟩, ⟨-1, 2⟩],
    #v[⟨-1, 2⟩, ⟨3, 2⟩, ⟨-3, 2⟩, ⟨1, 2⟩]]⟩⟩

def cubicUniformBSpline : SquareMatrix :=
  ⟨4, ⟨#v[
    #v[⟨1, 6⟩, ⟨2, 3⟩, ⟨1, 6⟩, 0],
    #v[⟨-1, 2⟩, 0, ⟨1, 2⟩, 0],
    #v[⟨1, 2⟩, ⟨-1, 1⟩, ⟨1, 2⟩, 0],
    #v[⟨-1, 6⟩, ⟨1, 2⟩, ⟨-1, 2⟩, ⟨1, 6⟩]]⟩⟩

end Basis

namespace Catalog

def bezierCubic : Family where
  degree := 3
  id := "Bezier"
  display := "Bézier"
  basisId := "cubicBezier"
  matrix := Basis.cubicBezier
  pointNames := ["p0", "p1", "p2", "p3"]
  pointDescriptions := [
    "The starting point of the curve",
    "The second control point of the curve, sometimes called the start tangent point",
    "The third control point of the curve, sometimes called the end tangent point",
    "The end point of the curve"]
  splittable := true

def bezierQuadratic : Family where
  degree := 2
  id := "Bezier"
  display := "Bézier"
  basisId := "quadraticBezier"
  matrix := Basis.quadraticBezier
  pointNames := ["p0", "p1", "p2"]
  pointDescriptions := [
    "The starting point of the curve",
    "The middle control point of the curve, sometimes called a tangent point",
    "The end point of the curve"]
  splittable := true

def hermite : Family where
  degree := 3
  id := "Hermite"
  display := "Hermite"
  basisId := "cubicHermite"
  matrix := Basis.cubicHermite
  pointNames := ["p0", "v0", "p1", "v1"]
  pointDescriptions := [
    "The starting point of the curve",
    "The rate of change (velocity) at the start of the curve",
    "The end point of the curve",
    "The rate of change (velocity) at the end of the curve"]
  splittable := false

def catmullRom : Family where
  degree := 3
  id := "CatRom"
  display := "Catmull-Rom"
  basisId := "cubicCatmullRom"
  matrix := Basis.cubicCatmullRom
  pointNames := ["p0", "p1", "p2", "p3"]
  pointDescriptions := [
    "The first control point of the catmull-rom curve. Note that this point is not included in the curve itself, and only helps to shape it",
    "The second control point, and the start of the catmull-rom curve",
    "The third control point, and the end of the catmull-rom curve",
    "The last control point of the catmull-rom curve. Note that this point is not included in the curve itself, and only helps to shape it"]
  splittable := false

def uniformBSpline : Family where
  degree := 3
  id := "UBS"
  display := "B-Spline"
  basisId := "cubicUniformBspline"
  matrix := Basis.cubicUniformBSpline
  pointNames := ["p0", "p1", "p2", "p3"]
  pointDescriptions := [
    "The first point of the B-spline hull",
    "The second point of the B-spline hull",
    "The third point of the B-spline hull",
    "The fourth point of the B-spline hull"]
  splittable := false

def standard : Catalog :=
  ⟨[⟨bezierCubic, by rfl⟩, ⟨bezierQuadratic, by rfl⟩, ⟨hermite, by rfl⟩,
    ⟨catmullRom, by rfl⟩, ⟨uniformBSpline, by rfl⟩]⟩

end Catalog

end CurveForge
