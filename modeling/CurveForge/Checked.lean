/-!
# Checked computations

A fault is the reason why a computation on machine words stops without a
value. It is kept apart from the errors of code generation: a caller may
report a generation error and go on, while a fault ends the whole run.

Sizes and indices are words of 64 bits without a sign; the intermediate values
of fraction arithmetic have 128 bits and a sign. Both are kept as unbounded
numbers here, and an operation whose exact result does not fit is a fault.
-/

namespace CurveForge

inductive Fault where
  | zeroDenominator
  | divisionByZero
  | numeratorOverflow
  | denominatorOverflow
  | negateOverflow
  | addOverflow
  | subtractOverflow
  | multiplyOverflow
  | sizeMismatch (left right : Nat)
  | lengthMismatch (vector matrix : Nat)
  | outOfBounds
  | capacityExceeded
  deriving DecidableEq, Repr

/-- A value, or the fault that kept it from being computed. -/
abbrev Checked := Except Fault

namespace Fault

private def disagreement (subject left right : String) : String :=
  "assertion `left == right` failed: " ++ subject ++ "\n  left: " ++ left ++ "\n right: " ++ right

def message : Fault → String
  | zeroDenominator => "rational with zero denominator"
  | divisionByZero => "rational division by zero"
  | numeratorOverflow => "rational numerator overflow"
  | denominatorOverflow => "rational denominator overflow"
  | negateOverflow => "attempt to negate with overflow"
  | addOverflow => "attempt to add with overflow"
  | subtractOverflow => "attempt to subtract with overflow"
  | multiplyOverflow => "attempt to multiply with overflow"
  | sizeMismatch left right =>
      disagreement "matrix sizes do not match" (toString left) (toString right)
  | lengthMismatch vector matrix =>
      disagreement "vector length does not match matrix" (toString vector) (toString matrix)
  | outOfBounds => "out of bounds"
  | capacityExceeded => "ArrayVec: capacity exceeded in extend/from_iter"

end Fault

namespace Word

def limit : Nat := UInt64.size

def add (a b : Nat) : Checked Nat :=
  if a + b < limit then .ok (a + b) else .error .addOverflow

def mul (a b : Nat) : Checked Nat :=
  if a * b < limit then .ok (a * b) else .error .multiplyOverflow

end Word

namespace Wide

/-- The least value that is too large: a one and 127 zeros in binary. -/
def limit : Int := 0x80000000000000000000000000000000

/-- An intermediate value fits when it has at most 127 bits besides its sign. -/
def Fits (x : Int) : Prop := -limit ≤ x ∧ x < limit

instance (x : Int) : Decidable (Fits x) := by unfold Fits; infer_instance

def check (fault : Fault) (x : Int) : Checked Int :=
  if Fits x then .ok x else .error fault

def add (a b : Int) : Checked Int := check .addOverflow (a + b)

def mul (a b : Int) : Checked Int := check .multiplyOverflow (a * b)

def neg (a : Int) : Checked Int := check .negateOverflow (-a)

def magnitude (a : Int) : Checked Nat := do
  let positive ← if a < 0 then neg a else pure a
  return positive.toNat

end Wide

end CurveForge
