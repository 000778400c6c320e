import CurveForge.Generation
import CurveForge.Matrix.Square

/-!
# Inversion by elimination

A matrix is inverted by clearing its columns from left to right. Each cell is
kept together with the cell of a second matrix, which starts as the identity
and receives the same row operations; when the first matrix has become the
identity, the second one is the inverse. A column without a usable pivot shows
that there is none.

Within a row the two cells of a column are updated together, first the cell of
the matrix, then its partner.

A curve has the same coefficients in every basis. The points of the target
basis are therefore the inverse of the target matrix applied to the source
matrix applied to the points of the source basis.
-/

namespace CurveForge

structure Paired where
  left : Fraction
  right : Fraction
  deriving DecidableEq, Repr

namespace Paired

def scale (factor : Fraction) (cell : Paired) : Checked Paired := do
  let left ← cell.left.mul factor
  let right ← cell.right.mul factor
  return ⟨left, right⟩

def clear (factor : Fraction) (cell pivot : Paired) : Checked Paired := do
  let left ← factor.mul pivot.left
  let left ← cell.left.sub left
  let right ← factor.mul pivot.right
  let right ← cell.right.sub right
  return ⟨left, right⟩

end Paired

/-- A grid and its partner, cell by cell. -/
abbrev Augmented (n : Nat) := Grid Paired n

namespace Augmented

variable {n : Nat}

def ofGrid (grid : Grid Fraction n) : Augmented n :=
  Grid.ofFn fun r c => ⟨grid.entry r c, (Grid.identity n).entry r c⟩

/-- The partner of the cleared grid. -/
def partner (a : Augmented n) : Grid Fraction n := Grid.map Paired.right a

/-- The first row from the diagonal on whose cell in the column is not zero. -/
def pivot? (a : Augmented n) (col : Fin n) : Option (Fin n) :=
  (List.finRange n).find? fun r => col ≤ r && !(Grid.entry a r col).left.isZero

def swapRows (a : Augmented n) (r s : Fin n) : Augmented n :=
  ⟨Vector.ofFn fun i => if i = r then Grid.row a s else if i = s then Grid.row a r else Grid.row a i⟩

def clearedRow (pivotRow row : Vector Paired n) (col : Fin n) : Checked (Vector Paired n) :=
  let factor := (row.get col).left
  if factor.isZero then .ok row
  else Vector.ofFnM fun c => (row.get c).clear factor (pivotRow.get c)

/-- Scales the row of the column to a unit pivot and clears the column in every other row. -/
def clearColumn (a : Augmented n) (col : Fin n) (scale : Fraction) : Checked (Augmented n) := do
  let pivotRow ← Vector.ofFnM fun c => (Grid.entry a col c).scale scale
  let rows ← Vector.ofFnM fun r =>
    if r = col then .ok pivotRow else clearedRow pivotRow (Grid.row a r) col
  return ⟨rows⟩

def step? (a : Augmented n) (col : Fin n) : Checked (Option (Augmented n)) := do
  match a.pivot? col with
  | none => return none
  | some pivot =>
      let swapped := a.swapRows pivot col
      match ← (Grid.entry swapped col col).left.recip? with
      | none => return none
      | some scale => return some (← swapped.clearColumn col scale)

def clearColumns? (a : Augmented n) : List (Fin n) → Checked (Option (Augmented n))
  | [] => return some a
  | col :: rest => do
      match ← a.step? col with
      | none => return none
      | some next => clearColumns? next rest

end Augmented

def Grid.inverse? {n : Nat} (grid : Grid Fraction n) : Checked (Option (Grid Fraction n)) := do
  let cleared ← (Augmented.ofGrid grid).clearColumns? (List.finRange n)
  return cleared.map Augmented.partner

def SquareMatrix.inverse? (m : SquareMatrix) : Checked (Option SquareMatrix) := do
  let inverse ← m.grid.inverse?
  return inverse.map fun grid => ⟨m.size, grid⟩

namespace SquareMatrix

def conversion (source target : SquareMatrix) : Generation SquareMatrix := do
  if source.size ≠ target.size then throw (.degreeMismatch source.size target.size)
  match ← target.inverse? with
  | none => throw (.singularBasisMatrix source target)
  | some inverse => inverse.mul source

end SquareMatrix

end CurveForge
