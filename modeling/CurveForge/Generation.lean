import CurveForge.Matrix.Square
import CurveForge.Storage.Basic

/-!
# Errors of generation

What can be wrong with a curve family, with a conversion between two families,
or with the place that receives the generated documents. A generation error is
an answer of its own, so it sits inside the computations that may also end with
a fault.
-/

namespace CurveForge

inductive Malformation where
  | degreeNotPositive
  | matrixSize (size points : Nat)
  | nameCount (expected found : Nat)
  | descriptionCount (expected found : Nat)
  | duplicateName (name : String)
  deriving DecidableEq, Repr

def Malformation.message : Malformation → String
  | degreeNotPositive => "degree must be positive"
  | matrixSize size points =>
      "characteristic matrix is " ++ toString size ++ "x" ++ toString size ++
        " but there are " ++ toString points ++ " control points"
  | nameCount expected found =>
      "expected " ++ toString expected ++ " control point names, found " ++ toString found
  | descriptionCount expected found =>
      "expected " ++ toString expected ++ " control point descriptions, found " ++ toString found
  | duplicateName name => "duplicate control point name `" ++ name ++ "`"

inductive GenerationError where
  | malformedDescriptor (family : String) (reason : Malformation)
  | unsupportedDimension (dimension : Nat)
  | unsupportedDegree (degree : Nat)
  | singularBasisMatrix (source target : SquareMatrix)
  | degreeMismatch (source target : Nat)
  | io (reason : StorageFailure)
  | manifest (reason : StorageFailure)
  | batchFailed (failed : Nat)
  deriving DecidableEq, Repr

def GenerationError.message : GenerationError → String
  | malformedDescriptor family reason =>
      "malformed descriptor for " ++ family ++ ": " ++ reason.message
  | unsupportedDimension dimension =>
      "no vector type or lerp function for " ++ toString dimension ++ "D segments"
  | unsupportedDegree degree => "no name for splines of degree " ++ toString degree
  | singularBasisMatrix source target =>
      "cannot convert from basis " ++ source.debugText ++ " to singular basis " ++ target.debugText
  | degreeMismatch source target =>
      "cannot convert between bases of size " ++ toString source ++ " and " ++ toString target
  | io reason => "failed to write generated source: " ++ reason.message
  | manifest reason => "failed to write manifest: " ++ reason.message
  | batchFailed failed => toString failed ++ " segment type(s) failed to generate"

/-- A value, a generation error, or a fault. -/
abbrev Generation := ExceptT GenerationError Checked

end CurveForge
