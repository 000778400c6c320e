import CurveForge.Naming

/-!
# Families and catalogs

A curve family describes one way to give a polynomial curve by control points:
its degree, its characteristic matrix, and a name and a description for each
point. The parts have to fit each other, which is tested before a family is
used.

A catalog is a list of valid curve families in the order of generation.
-/

namespace CurveForge

structure Family where
  degree : Nat
  id : String
  display : String
  basisId : String
  matrix : SquareMatrix
  pointNames : List String
  pointDescriptions : List String
  splittable : Bool
  deriving DecidableEq, Repr

def firstRepeated (seen : List String) : List String → Option String
  | [] => none
  | name :: rest => if name ∈ seen then some name else firstRepeated (name :: seen) rest

namespace Family

def pointCount (f : Family) : Checked Nat := Word.add f.degree 1

/-- The name of the generated types without their dimension. -/
def typeStem (f : Family) : String :=
  f.id ++ (degreeName .short f.degree).toOption.getD "Unnamed"

def typeName (f : Family) (dimension : Nat) : Except GenerationError String := do
  let degree ← degreeName .short f.degree
  return f.id ++ degree ++ toString dimension ++ "D"

def malformation? (f : Family) (points : Nat) : Option Malformation :=
  if f.degree = 0 then some .degreeNotPositive
  else if f.matrix.size ≠ points then some (.matrixSize f.matrix.size points)
  else if f.pointNames.length ≠ points then some (.nameCount points f.pointNames.length)
  else if f.pointDescriptions.length ≠ points then
    some (.descriptionCount points f.pointDescriptions.length)
  else (firstRepeated [] f.pointNames).map .duplicateName

def validate (f : Family) : Generation Unit := do
  let points ← f.pointCount
  match f.malformation? points with
  | some reason => throw (.malformedDescriptor f.typeStem reason)
  | none => return ()

end Family

structure ValidFamily where
  family : Family
  valid : family.validate = pure ()

def Family.check (f : Family) : Generation ValidFamily :=
  match passed : f.validate with
  | .ok (.ok ()) => pure ⟨f, passed⟩
  | .ok (.error reason) => throw reason
  | .error fault => ExceptT.lift (.error fault)

structure Catalog where
  entries : List ValidFamily

namespace Catalog

/-- The catalog of the given families; the first invalid one is reported. -/
def ofFamilies (families : List Family) : Generation Catalog := do
  let entries ← families.mapM Family.check
  return ⟨entries⟩

def families (catalog : Catalog) : List Family := catalog.entries.map ValidFamily.family

def isNamed (id : String) (degree : Nat) (f : Family) : Bool := f.id == id && f.degree == degree

def find? (catalog : Catalog) (id : String) (degree : Nat) : Option Family :=
  catalog.families.find? (isNamed id degree)

def index? (catalog : Catalog) (id : String) (degree : Nat) : Option Nat :=
  catalog.families.findIdx? (isNamed id degree)

def cubicFamilies (catalog : Catalog) : List Family :=
  catalog.families.filter fun f => f.degree == 3

end Catalog

end CurveForge
