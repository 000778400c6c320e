import CurveForge.Fraction.Basic

/-!
# Square matrices

A grid of order `n` holds `n` rows of `n` entries, so reading an entry needs no
test. Products are taken entry by entry in row-major order; the first fault met
in that order is the one reported.

A square matrix is a size together with a grid of that order. Cells can also be
reached by their position in row-major order; only that position is compared
with the number of cells, so a column past the end of a row means a cell of a
later row.
-/

namespace CurveForge

/-- The sum of the products of paired fractions, accumulated from the left. -/
def Fraction.dot (pairs : List (Fraction × Fraction)) : Checked Fraction :=
  pairs.foldlM (fun total pair => do
    let product ← pair.1.mul pair.2
    total.add product) 0

/-- A square table with `n` rows of `n` entries. -/
structure Grid (α : Type) (n : Nat) where
  rows : Vector (Vector α n) n
  deriving DecidableEq, Repr

namespace Grid

variable {α β : Type} {n : Nat}

def row (grid : Grid α n) (r : Fin n) : Vector α n := grid.rows.get r

def entry (grid : Grid α n) (r c : Fin n) : α := (grid.row r).get c

def ofFn (f : Fin n → Fin n → α) : Grid α n :=
  ⟨Vector.ofFn fun r => Vector.ofFn fun c => f r c⟩

def ofFnM {m : Type → Type} [Monad m] (f : Fin n → Fin n → m α) : m (Grid α n) := do
  let rows ← Vector.ofFnM fun r => Vector.ofFnM fun c => f r c
  return ⟨rows⟩

def map (f : α → β) (grid : Grid α n) : Grid β n := ofFn fun r c => f (grid.entry r c)

def set (grid : Grid α n) (r c : Fin n) (value : α) : Grid α n :=
  ofFn fun i j => if i = r ∧ j = c then value else grid.entry i j

def toLists (grid : Grid α n) : List (List α) := grid.rows.toList.map Vector.toList

def zeros (n : Nat) : Grid Fraction n := ofFn fun _ _ => 0

def identity (n : Nat) : Grid Fraction n := ofFn fun r c => if r = c then 1 else 0

def scaled (grid : Grid Fraction n) (factor : Fraction) : Checked (Grid Fraction n) :=
  ofFnM fun r c => (grid.entry r c).mul factor

def mul (a b : Grid Fraction n) : Checked (Grid Fraction n) :=
  ofFnM fun r c => Fraction.dot ((List.finRange n).map fun k => (a.entry r k, b.entry k c))

end Grid

structure SquareMatrix where
  size : Nat
  grid : Grid Fraction size
  deriving DecidableEq, Repr

namespace SquareMatrix

/-- The zero matrix; its number of cells has to be a word. -/
def zeros (size : Nat) : Checked SquareMatrix := do
  let _ ← Word.mul size size
  return ⟨size, Grid.zeros size⟩

/-- The identity matrix; its number of cells has to be a word. -/
def identity (size : Nat) : Checked SquareMatrix := do
  let _ ← Word.mul size size
  return ⟨size, Grid.identity size⟩

def rows (m : SquareMatrix) : List (List Fraction) := m.grid.toLists

def cells (m : SquareMatrix) : List Fraction := m.rows.flatten

/-- The matrix with the given rows, if they are as long as they are many. -/
def ofRows? (rows : List (List Fraction)) : Option SquareMatrix :=
  if rows.all (fun row => row.length = rows.length) then
    some ⟨rows.length, Grid.ofFn fun r c => (rows[r].getD c 0)⟩
  else none

def scaled (m : SquareMatrix) (factor : Fraction) : Checked SquareMatrix := do
  let grid ← m.grid.scaled factor
  return ⟨m.size, grid⟩

def position (m : SquareMatrix) (r c : Nat) : Checked Nat := do
  let start ← Word.mul r m.size
  Word.add start c

def get (m : SquareMatrix) (r c : Nat) : Checked Fraction := do
  let index ← m.position r c
  match m.cells[index]? with
  | some value => return value
  | none => throw .outOfBounds

def put (m : SquareMatrix) (r c : Nat) (value : Fraction) : Checked SquareMatrix := do
  let index ← m.position r c
  if inside : index < m.size * m.size then
    have positive : 0 < m.size := Nat.pos_of_mul_pos_left (Nat.zero_lt_of_lt inside)
    return ⟨m.size, m.grid.set ⟨index / m.size, Nat.div_lt_of_lt_mul inside⟩
      ⟨index % m.size, Nat.mod_lt index positive⟩ value⟩
  else throw .outOfBounds

/-- The cells from the start of row `r` to the start of the next row. -/
def row (m : SquareMatrix) (r : Nat) : Checked (List Fraction) := do
  let start ← Word.mul r m.size
  let next ← Word.add r 1
  let stop ← Word.mul next m.size
  if stop ≤ m.size * m.size then return (m.cells.take stop).drop start
  else throw .outOfBounds

/-- The product with a column of values. -/
def apply (m : SquareMatrix) (column : List Fraction) : Checked (List Fraction) := do
  if column.length ≠ m.size then throw (.lengthMismatch column.length m.size)
  m.rows.mapM fun row => Fraction.dot (row.zip column)

def mul (a b : SquareMatrix) : Checked SquareMatrix :=
  if same : b.size = a.size then do
    let grid ← a.grid.mul (same ▸ b.grid)
    return ⟨a.size, grid⟩
  else .error (.sizeMismatch a.size b.size)

def debugText (m : SquareMatrix) : String :=
  "[" ++ "; ".intercalate (m.rows.map fun row => ",".intercalate (row.map Fraction.text)) ++ "]"

end SquareMatrix

end CurveForge
