import CurveForge.Catalog.Basic
import CurveForge.Formula
import CurveForge.Naming
import CurveForge.Text.Lowercase

/-!
# Blueprints of segment types

A blueprint holds everything that the text of a segment type depends on. All that
can fail about a type fails while its blueprint is drawn; writing it down cannot.
-/

namespace CurveForge

structure ControlPoint where
  name : String
  description : String
  deriving DecidableEq, Repr

structure Conversion where
  target : String
  formulas : PointFormulas
  deriving DecidableEq, Repr

structure EndPoints where
  first : String
  last : String
  deriving DecidableEq, Repr

structure Blueprint where
  name : String
  dimension : Dimension
  degree : Nat
  degreeWord : String
  displayWord : String
  points : List ControlPoint
  curve : PointFormulas
  spherical : Option EndPoints
  splittable : Bool
  castTarget : Option String
  conversions : List Conversion
  deriving DecidableEq, Repr

namespace Blueprint

def pointNames (b : Blueprint) : List String := b.points.map ControlPoint.name

/-- Whether tangents of the family can be blended on a sphere. -/
def isSpherical (f : Family) (d : Dimension) : Bool :=
  d != .one && (f.degree == 2 || f.degree == 3) && f.id == "Bezier"

/-- The points at both ends; a curve without points has none. -/
def endPoints (names : List String) : Checked EndPoints :=
  match names.head?, names.getLast? with
  | some first, some last => .ok ⟨first, last⟩
  | _, _ => .error .outOfBounds

def sphericalEnds? (f : Family) (d : Dimension) : Checked (Option EndPoints) := do
  if !isSpherical f d then return none
  let ends ← endPoints f.pointNames
  return some ends

/-- Whether the type can be split, for which it needs a point to start from. -/
def checkSplittable (f : Family) : Checked Bool :=
  if f.splittable && f.pointNames.isEmpty then .error .outOfBounds else .ok f.splittable

def castDimension? (f : Family) : Dimension → Option Dimension
  | .one => none
  | .two => if f.degree = 3 then some .three else none
  | .three => if f.degree = 3 then some .two else none

def castTarget? (f : Family) (d : Dimension) : Except GenerationError (Option String) :=
  match castDimension? f d with
  | none => .ok none
  | some other => do
      let name ← f.typeName other.number
      return some name

/-- The cubic families with another identifier, if the family itself is cubic. -/
def conversionTargets (catalog : Catalog) (f : Family) : List Family :=
  catalog.cubicFamilies.filter fun target => f.degree == 3 && target.id != f.id

def conversionTo (f : Family) (d : Dimension) (target : Family) : Generation Conversion := do
  let name ← target.typeName d.number
  let matrix ← f.matrix.conversion target.matrix
  let formulas ← PointFormulas.ofMatrix matrix f.pointNames
  return ⟨name, formulas⟩

def ofFamily (catalog : Catalog) (valid : ValidFamily) (dimension : Nat) :
    Generation Blueprint := do
  let f := valid.family
  let d ← Dimension.ofNumber dimension
  let name ← f.typeName dimension
  let degreeWord ← degreeName .long f.degree
  let castTarget ← castTarget? f d
  let curve ← PointFormulas.ofMatrix f.matrix f.pointNames
  let spherical ← sphericalEnds? f d
  let splittable ← checkSplittable f
  let conversions ← (conversionTargets catalog f).mapM (conversionTo f d)
  return {
    name, dimension := d, degree := f.degree
    degreeWord := Text.lowercase degreeWord
    displayWord := Text.lowercase f.display
    points := (f.pointNames.zip f.pointDescriptions).map fun pair => ⟨pair.1, pair.2⟩
    curve, spherical, splittable, castTarget, conversions }

end Blueprint

end CurveForge
