import Mathlib
import CurveForge.Proofs.Matrix.Cells
import CurveForge.Proofs.Matrix.Solution

/-!
# Products of matrices and columns

Products are exact: their entries are the sums of the products of values, in lowest
terms, so products in any bracketing and products with the identity agree entry by
entry where no fraction is too large on the way. Operands of different sizes are
refused before anything is computed.

A product can also be computed on the cells, each read and written at its row-major
position, and the rows that a column is multiplied with are the chunks of the cells.
-/

namespace CurveForge

open Checked (Ends Yields)

namespace Fraction

/-- Products that are zero leave the total as it is. -/
theorem foldlM_of_mul_zero {total : Fraction} (reduced : total.Reduced)
    {pairs : List (Fraction × Fraction)} (zero : ∀ pair ∈ pairs, pair.1.mul pair.2 = .ok 0) :
    pairs.foldlM (fun total pair => do
      let product ← pair.1.mul pair.2
      total.add product) total = (.ok total : Checked Fraction) := by
  have unchanged : total.add 0 = .ok total := by
    rw [reduced.add_eq reduced_zero, value_zero, add_zero, ofRat_value reduced]
  induction pairs with
  | nil => rfl
  | cons pair rest ih =>
      obtain ⟨here, later⟩ := List.forall_mem_cons.mp zero
      rw [List.foldlM_cons, here]
      change (total.add 0 >>= _) = _
      rw [unchanged]
      exact ih later

/-- A sum in which all products but one are zero is this product. -/
theorem dot_of_single {front behind : List (Fraction × Fraction)} {pair : Fraction × Fraction}
    {product : Fraction} (reduced : product.Reduced) (before : ∀ other ∈ front,
      other.1.mul other.2 = .ok 0) (computed : pair.1.mul pair.2 = .ok product)
    (after : ∀ other ∈ behind, other.1.mul other.2 = .ok 0) :
    dot (front ++ pair :: behind) = .ok product := by
  have first : (0 : Fraction).add product = .ok product := by
    rw [reduced_zero.add_eq reduced, value_zero, zero_add, ofRat_value reduced]
  rw [dot, List.foldlM_append, foldlM_of_mul_zero reduced_zero before]
  change ((pair.1.mul pair.2 >>= fun product => (0 : Fraction).add product) >>= _) = _
  rw [computed]
  change ((0 : Fraction).add product >>= _) = _
  rw [first]
  exact foldlM_of_mul_zero reduced after

/-- A sum over all indices in which only one product is not zero is this product. -/
theorem dot_finRange {n : Nat} {pairs : Fin n → Fraction × Fraction} {product : Fraction}
    (reduced : product.Reduced) (i : Fin n)
    (computed : (pairs i).1.mul (pairs i).2 = .ok product)
    (others : ∀ k, k ≠ i → (pairs k).1.mul (pairs k).2 = .ok 0) :
    dot ((List.finRange n).map pairs) = .ok product := by
  obtain ⟨front, behind, split⟩ := List.append_of_mem (List.mem_finRange i)
  have nodup : (front ++ i :: behind).Nodup := split ▸ List.nodup_finRange n
  have apart : i ∉ front ++ behind := (List.nodup_cons.mp (List.nodup_middle.mp nodup)).1
  have zero (part : List (Fin n)) (inside : ∀ k ∈ part, k ∈ front ++ behind) :
      ∀ other ∈ part.map pairs, other.1.mul other.2 = .ok 0 := by
    intro other member
    obtain ⟨k, listed, rfl⟩ := List.mem_map.mp member
    exact others k fun same => apart (same ▸ inside k listed)
  rw [split, List.map_append, List.map_cons]
  exact dot_of_single reduced (zero front fun k => List.mem_append_left behind) computed
    (zero behind fun k => List.mem_append_right front)

namespace Reduced

variable {a : Fraction}

theorem mul_zero_eq (reduced : a.Reduced) : a.mul 0 = .ok 0 := by
  rw [reduced.mul_eq reduced_zero, value_zero, mul_zero, ← value_zero, ofRat_value reduced_zero]

theorem zero_mul_eq (reduced : a.Reduced) : mul 0 a = .ok 0 := by
  rw [reduced_zero.mul_eq reduced, value_zero, zero_mul, ← value_zero, ofRat_value reduced_zero]

theorem mul_one_eq (reduced : a.Reduced) : a.mul 1 = .ok a := by
  rw [reduced.mul_eq reduced_one, value_one, mul_one, ofRat_value reduced]

theorem one_mul_eq (reduced : a.Reduced) : mul 1 a = .ok a := by
  rw [reduced_one.mul_eq reduced, value_one, one_mul, ofRat_value reduced]

end Reduced

end Fraction

namespace Grid

variable {n : Nat}

/-- A grid whose entries are all computed is computed. -/
theorem ofFnM_of_eq_ok {α : Type} {f : Fin n → Fin n → Checked α} {grid : Grid α n}
    (each : ∀ r c, f r c = .ok (grid.entry r c)) : ofFnM f = .ok grid := by
  have here (r c : Fin n) : Ends (fun _ => False) (f r c) (· = grid.entry r c) := by
    rw [each]
    exact rfl
  have ends : Ends (fun _ => False) (ofFnM f) fun result =>
      ∀ r c, result.entry r c = grid.entry r c := ofFnM_ends here
  cases computed : ofFnM f with
  | error fault => exact (ends.of_eq_error computed).elim
  | ok result => rw [ext_entry (ends.of_eq_ok computed)]

def mulEntry (a b : Grid Fraction n) (r c : Fin n) : Checked Fraction :=
  Fraction.dot ((List.finRange n).map fun k => (a.entry r k, b.entry k c))

variable {a : Grid Fraction n}

theorem mul_identity (reduced : a.Reduced) : a.mul (identity n) = .ok a := by
  refine ofFnM_of_eq_ok fun r c => Fraction.dot_finRange (reduced r c) c ?_ fun k other => ?_
  · rw [identity, entry_ofFn, if_pos rfl]
    exact (reduced r c).mul_one_eq
  · rw [identity, entry_ofFn, if_neg other]
    exact (reduced r k).mul_zero_eq

theorem identity_mul (reduced : a.Reduced) : (identity n).mul a = .ok a := by
  refine ofFnM_of_eq_ok fun r c => Fraction.dot_finRange (reduced r c) r ?_ fun k other => ?_
  · rw [identity, entry_ofFn, if_pos rfl]
    exact (reduced r c).one_mul_eq
  · rw [identity, entry_ofFn, if_neg (Ne.symm other)]
    exact (reduced k c).zero_mul_eq

end Grid

/-! ## Products on cells -/

/-- A list cut into pieces of a width; the last piece may be shorter. -/
def chunks {α : Type} (width : Nat) : List α → List (List α)
  | [] => []
  | first :: rest =>
      (first :: rest.take (width - 1)) :: chunks width (rest.drop (width - 1))
termination_by entries => entries.length
decreasing_by
  rw [List.length_drop, List.length_cons]
  omega

theorem chunks_flatten {α : Type} {width : Nat} (positive : 0 < width) {pieces : List (List α)}
    (lengths : ∀ piece ∈ pieces, piece.length = width) : chunks width pieces.flatten = pieces := by
  induction pieces with
  | nil => rw [List.flatten_nil, chunks]
  | cons piece rest ih =>
      obtain ⟨here, later⟩ := List.forall_mem_cons.mp lengths
      cases piece with
      | nil => exact absurd here positive.ne
      | cons first others =>
          have others : others.length = width - 1 := by
            rw [← here, List.length_cons, Nat.add_sub_cancel]
          rw [List.flatten_cons, List.cons_append, chunks, ← others, List.take_left,
            List.drop_left, ih later]

namespace SquareMatrix

/-- The rows are the chunks of the cells. -/
theorem rows_eq_chunks (m : SquareMatrix) : m.rows = chunks (max m.size 1) m.cells := by
  refine (chunks_flatten (by omega) fun row member => ?_).symm
  have nonempty : 0 < m.size := length_rows m ▸ List.length_pos_of_mem member
  rw [length_of_mem_rows member]
  omega

/-- The sum of the products of the cells in a row and in a column, accumulated from the left. -/
def dotCells (a b : SquareMatrix) (r c : Nat) : Checked Fraction :=
  (List.range a.size).foldlM (fun total k => do
    let left ← a.get r k
    let right ← b.get k c
    let product ← left.mul right
    total.add product) 0

def fillCell (a b product : SquareMatrix) (r c : Nat) : Checked SquareMatrix := do
  let cell ← a.dotCells b r c
  product.put r c cell

def fillRow (a b product : SquareMatrix) (r : Nat) : Checked SquareMatrix :=
  (List.range a.size).foldlM (fun product c => a.fillCell b product r c) product

/-- The product of two matrices, cell by cell. -/
def mulCells (a b : SquareMatrix) : Checked SquareMatrix := do
  if a.size ≠ b.size then throw (.sizeMismatch a.size b.size)
  let product ← zeros a.size
  (List.range a.size).foldlM (a.fillRow b) product

section Cells

variable {n : Nat} (small : n * n < Word.limit) (a b : Grid Fraction n)
include small

theorem dotCells_of_fin (r c : Fin n) :
    dotCells ⟨n, a⟩ ⟨n, b⟩ r c = a.mulEntry b r c := by
  rw [dotCells, Grid.mulEntry, Fraction.dot, List.foldlM_map, ← List.map_coe_finRange_eq_range,
    List.foldlM_map]
  simp only [get_of_fin small, bind, Except.bind]

theorem fillCell_of_fin (product : Grid Fraction n) (r c : Fin n) :
    fillCell ⟨n, a⟩ ⟨n, b⟩ ⟨n, product⟩ r c =
      (fun cell => ⟨n, product.set r c cell⟩) <$> a.mulEntry b r c := by
  rw [fillCell, dotCells_of_fin small]
  cases a.mulEntry b r c with
  | error fault => rfl
  | ok cell => exact put_of_fin small product r c cell

theorem fillRow_of_fin (product : Grid Fraction n) (r : Fin n) :
    fillRow ⟨n, a⟩ ⟨n, b⟩ ⟨n, product⟩ r =
      (fun cells => ⟨n, product.setRow r cells⟩) <$> Vector.ofFnM (a.mulEntry b r) := by
  have each (cells : Vector Fraction n) (c : Fin n) :
      fillCell ⟨n, a⟩ ⟨n, b⟩ ⟨n, product.setRow r cells⟩ r c =
        (fun cell => ⟨n, product.setRow r (cells.set c cell)⟩) <$> a.mulEntry b r c := by
    simp only [fillCell_of_fin small, Grid.set_setRow]
  have loop : (List.range n).foldlM (fun product c => fillCell ⟨n, a⟩ ⟨n, b⟩ product r c)
      ⟨n, product.setRow r (product.row r)⟩ =
        (fun cells => ⟨n, product.setRow r cells⟩) <$> Vector.ofFnM (a.mulEntry b r) :=
    Checked.foldlM_entries (fun cells => (⟨n, product.setRow r cells⟩ : SquareMatrix))
      (fun c _ => a.mulEntry b r c) each _
  rw [Grid.setRow_row] at loop
  exact loop

theorem mulCells_of_fin : mulCells ⟨n, a⟩ ⟨n, b⟩ = mul ⟨n, a⟩ ⟨n, b⟩ := by
  have start : zeros n = .ok ⟨n, Grid.zeros n⟩ := by
    have word : Word.mul n n = .ok (n * n) := if_pos small
    rw [zeros, word]
    rfl
  have loop : (List.range n).foldlM (fillRow ⟨n, a⟩ ⟨n, b⟩) ⟨n, Grid.zeros n⟩ =
      (fun rows => ⟨n, ⟨rows⟩⟩) <$> Vector.ofFnM fun r => Vector.ofFnM (a.mulEntry b r) :=
    Checked.foldlM_entries (fun rows => (⟨n, ⟨rows⟩⟩ : SquareMatrix))
      (fun r _ => Vector.ofFnM (a.mulEntry b r))
      (fun rows r => fillRow_of_fin small a b ⟨rows⟩ r) _
  unfold mulCells mul
  rw [if_neg (not_not.mpr rfl), dif_pos rfl]
  change (zeros n >>= (List.range n).foldlM (fillRow ⟨n, a⟩ ⟨n, b⟩)) =
    ((Vector.ofFnM fun r => Vector.ofFnM (a.mulEntry b r)) >>= fun rows => pure ⟨rows⟩) >>=
      fun grid => pure ⟨n, grid⟩
  rw [start]
  change (List.range n).foldlM (fillRow ⟨n, a⟩ ⟨n, b⟩) ⟨n, Grid.zeros n⟩ = _
  rw [loop]
  cases Vector.ofFnM fun r => Vector.ofFnM (a.mulEntry b r) with
  | error fault => rfl
  | ok rows => rfl

end Cells

theorem mul_of_size_ne {left right : SquareMatrix} (differ : left.size ≠ right.size) :
    left.mul right = .error (.sizeMismatch left.size right.size) := dif_neg (Ne.symm differ)

/-- The product on cells is the product, as long as the number of cells is a word. -/
theorem mulCells_eq {left right : SquareMatrix} (small : left.size * left.size < Word.limit) :
    left.mulCells right = left.mul right := by
  obtain ⟨n, a⟩ := left
  obtain ⟨m, b⟩ := right
  by_cases same : n = m
  · subst same
    exact mulCells_of_fin small a b
  · rw [mul_of_size_ne same, mulCells, if_pos same]
    rfl

/-! ## Products and application -/

variable {n : Nat} {a b c : Grid Fraction n} {v : Fin n → Fraction}

/-- The entries of a product are the exact sums. -/
theorem mul_entries (aReduced : a.Reduced) (bReduced : b.Reduced) :
    Yields (mul ⟨n, a⟩ ⟨n, b⟩) fun ab => ∃ grid : Grid Fraction n, ab = ⟨n, grid⟩ ∧
      ∀ r c, (grid.entry r c).Reduced ∧
        (grid.entry r c).value = ∑ k, (a.entry r k).value * (b.entry k c).value := by
  apply (mul_yields aReduced bReduced).mono
  rintro _ ⟨grid, rfl, reduced, values⟩
  refine ⟨grid, rfl, fun r c => ⟨reduced r c, ?_⟩⟩
  rw [← Grid.values_apply, values, Matrix.mul_apply]
  rfl

/-- Applying a matrix multiplies the values of the column from the left. -/
theorem apply_values (aReduced : a.Reduced) (vReduced : ∀ k, (v k).Reduced) :
    Yields (apply ⟨n, a⟩ (List.ofFn v)) fun column => ∃ w : Fin n → Fraction,
      column = List.ofFn w ∧ (∀ r, (w r).Reduced) ∧
        (fun r => (w r).value) = a.values.mulVec fun k => (v k).value := by
  have reduced : ∀ entry ∈ List.ofFn v, entry.Reduced := List.forall_mem_ofFn_iff.mpr vReduced
  apply (apply_yields (m := ⟨n, a⟩) aReduced reduced List.length_ofFn).mono
  rintro column ⟨columnReduced, values⟩
  rw [List.map_ofFn, applied_ofFn] at values
  have length : column.length = n := by
    rw [← List.length_map (f := Fraction.value), values, List.length_ofFn]
  subst length
  have own : column.map Fraction.value = List.ofFn fun r => (column.get r).value := by
    rw [← Function.comp_def, ← List.map_ofFn, List.ofFn_get]
  exact ⟨column.get, (List.ofFn_get column).symm, fun r => columnReduced _ (column.get_mem r),
    List.ofFn_injective (own.symm.trans values)⟩

/-- The entries of a column that a matrix is applied to are the exact sums. -/
theorem apply_entries (aReduced : a.Reduced) (vReduced : ∀ k, (v k).Reduced) :
    Yields (apply ⟨n, a⟩ (List.ofFn v)) fun column => ∃ w : Fin n → Fraction,
      column = List.ofFn w ∧
        ∀ r, (w r).Reduced ∧ (w r).value = ∑ k, (a.entry r k).value * (v k).value := by
  apply (apply_values aReduced vReduced).mono
  rintro _ ⟨w, rfl, reduced, values⟩
  exact ⟨w, rfl, fun r => ⟨reduced r, congrFun values r⟩⟩

/-- Products of three grids agree in both bracketings. -/
theorem mul_assoc_yields (aReduced : a.Reduced) (bReduced : b.Reduced) (cReduced : c.Reduced) :
    Yields (mul ⟨n, a⟩ ⟨n, b⟩) fun ab => Yields (ab.mul ⟨n, c⟩) fun first =>
      Yields (mul ⟨n, b⟩ ⟨n, c⟩) fun bc => Yields (mul ⟨n, a⟩ bc) (first = ·) := by
  apply (mul_yields aReduced bReduced).mono
  rintro _ ⟨ab, rfl, abReduced, abValues⟩
  apply (mul_yields abReduced cReduced).mono
  rintro _ ⟨first, rfl, firstReduced, firstValues⟩
  apply (mul_yields bReduced cReduced).mono
  rintro _ ⟨bc, rfl, bcReduced, bcValues⟩
  apply (mul_yields aReduced bcReduced).mono
  rintro _ ⟨second, rfl, secondReduced, secondValues⟩
  have values : first.values = second.values := by
    rw [firstValues, secondValues, abValues, bcValues, Matrix.mul_assoc]
  rw [Grid.eq_of_values_eq firstReduced secondReduced values]

theorem mul_identity (reduced : a.Reduced) : mul ⟨n, a⟩ ⟨n, Grid.identity n⟩ = .ok ⟨n, a⟩ := by
  unfold mul
  rw [dif_pos rfl, Grid.mul_identity reduced]
  rfl

theorem identity_mul (reduced : a.Reduced) : mul ⟨n, Grid.identity n⟩ ⟨n, a⟩ = .ok ⟨n, a⟩ := by
  unfold mul
  rw [dif_pos rfl]
  change ((Grid.identity n).mul a >>= _) = _
  rw [Grid.identity_mul reduced]
  rfl

theorem eq_identity_of_ok {unit : SquareMatrix} (computed : identity n = .ok unit) :
    unit = ⟨n, Grid.identity n⟩ := by
  obtain ⟨_, -, same⟩ := Checked.bind_eq_ok_iff.mp computed
  exact (Except.ok.inj same).symm

/-- Applying a product is applying its factors one after another. -/
theorem mul_apply_yields (aReduced : a.Reduced) (bReduced : b.Reduced)
    (vReduced : ∀ k, (v k).Reduced) :
    Yields (mul ⟨n, a⟩ ⟨n, b⟩) fun ab => Yields (ab.apply (List.ofFn v)) fun direct =>
      Yields (apply ⟨n, b⟩ (List.ofFn v)) fun column =>
        Yields (apply ⟨n, a⟩ column) (direct = ·) := by
  apply (mul_yields aReduced bReduced).mono
  rintro _ ⟨ab, rfl, abReduced, abValues⟩
  apply (apply_values abReduced vReduced).mono
  rintro _ ⟨direct, rfl, directReduced, directValues⟩
  apply (apply_values bReduced vReduced).mono
  rintro _ ⟨column, rfl, columnReduced, columnValues⟩
  apply (apply_values aReduced columnReduced).mono
  rintro _ ⟨around, rfl, aroundReduced, aroundValues⟩
  have values : (fun r => (direct r).value) = fun r => (around r).value := by
    rw [directValues, aroundValues, columnValues, abValues, Matrix.mulVec_mulVec]
  exact congrArg List.ofFn (funext fun r =>
    (directReduced r).eq_of_value_eq (aroundReduced r) (congrFun values r))

theorem apply_of_length_ne {m : SquareMatrix} {column : List Fraction}
    (differ : column.length ≠ m.size) :
    m.apply column = .error (.lengthMismatch column.length m.size) := by
  rw [apply, if_pos differ]
  rfl

/-- Products are exact, and so are columns that a matrix is applied to. Products of three matrices
agree in both bracketings, products with the identity change nothing, and applying a product is
applying its factors one after another, unless a fraction is too large. Operands of other sizes are
refused, whatever their entries are. On cells, the product is the same, and the rows that are
applied are the chunks of the cells. -/
theorem products_exact (aReduced : a.Reduced) (bReduced : b.Reduced)
    (cReduced : c.Reduced) (vReduced : ∀ k, (v k).Reduced) :
    Yields (mul ⟨n, a⟩ ⟨n, b⟩) (fun ab => ∃ grid : Grid Fraction n, ab = ⟨n, grid⟩ ∧
      ∀ r c, (grid.entry r c).Reduced ∧
        (grid.entry r c).value = ∑ k, (a.entry r k).value * (b.entry k c).value) ∧
    Yields (apply ⟨n, a⟩ (List.ofFn v)) (fun column => ∃ w : Fin n → Fraction,
      column = List.ofFn w ∧
      ∀ r, (w r).Reduced ∧ (w r).value = ∑ k, (a.entry r k).value * (v k).value) ∧
    Yields (mul ⟨n, a⟩ ⟨n, b⟩) (fun ab => Yields (ab.mul ⟨n, c⟩) fun first =>
      Yields (mul ⟨n, b⟩ ⟨n, c⟩) fun bc => Yields (mul ⟨n, a⟩ bc) (first = ·)) ∧
    (∀ unit, identity n = .ok unit →
      mul ⟨n, a⟩ unit = .ok ⟨n, a⟩ ∧ mul unit ⟨n, a⟩ = .ok ⟨n, a⟩) ∧
    Yields (mul ⟨n, a⟩ ⟨n, b⟩) (fun ab => Yields (ab.apply (List.ofFn v)) fun direct =>
      Yields (apply ⟨n, b⟩ (List.ofFn v)) fun column =>
        Yields (apply ⟨n, a⟩ column) (direct = ·)) ∧
    (∀ left right : SquareMatrix, left.size ≠ right.size →
      left.mul right = .error (.sizeMismatch left.size right.size)) ∧
    (∀ (m : SquareMatrix) (column : List Fraction), column.length ≠ m.size →
      m.apply column = .error (.lengthMismatch column.length m.size)) ∧
    (∀ left right : SquareMatrix, left.size * left.size < Word.limit →
      left.mulCells right = left.mul right) ∧
    ∀ m : SquareMatrix, m.rows = chunks (max m.size 1) m.cells := by
  refine ⟨mul_entries aReduced bReduced, apply_entries aReduced vReduced,
    mul_assoc_yields aReduced bReduced cReduced, ?_, mul_apply_yields aReduced bReduced vReduced,
    fun _ _ => mul_of_size_ne, fun _ _ => apply_of_length_ne, fun _ _ => mulCells_eq,
    rows_eq_chunks⟩
  intro unit computed
  rw [eq_identity_of_ok computed]
  exact ⟨mul_identity aReduced, identity_mul aReduced⟩

def shear : Grid Fraction 2 := ⟨#v[#v[1, ⟨1, 2⟩], #v[0, 1]]⟩

def quarterTurn : Grid Fraction 2 := ⟨#v[#v[0, ⟨-1, 1⟩], #v[1, 0]]⟩

def turnedShear : Grid Fraction 2 := ⟨#v[#v[0, ⟨-1, 1⟩], #v[1, ⟨1, 2⟩]]⟩

def shearedTurn : Grid Fraction 2 := ⟨#v[#v[⟨1, 2⟩, ⟨-1, 1⟩], #v[1, 0]]⟩

/-- A quarter of a turn between two shears, in both bracketings, and a point that is turned and then
sheared: no fraction is too large on the way. -/
theorem products_exact_shear :
    shear.Reduced ∧ quarterTurn.Reduced ∧ mul ⟨2, shear⟩ ⟨2, quarterTurn⟩ = .ok ⟨2, shearedTurn⟩ ∧
      mul ⟨2, quarterTurn⟩ ⟨2, shear⟩ = .ok ⟨2, turnedShear⟩ ∧
      (∃ around, mul ⟨2, shearedTurn⟩ ⟨2, shear⟩ = .ok around ∧
        mul ⟨2, shear⟩ ⟨2, turnedShear⟩ = .ok around) ∧
      mul ⟨2, shear⟩ ⟨2, Grid.identity 2⟩ = .ok ⟨2, shear⟩ ∧
      apply ⟨2, quarterTurn⟩ [⟨1, 3⟩, 1] = .ok [⟨-1, 1⟩, ⟨1, 3⟩] ∧
      ∃ moved, apply ⟨2, shearedTurn⟩ [⟨1, 3⟩, 1] = .ok moved ∧
        apply ⟨2, shear⟩ [⟨-1, 1⟩, ⟨1, 3⟩] = .ok moved := by
  have shearReduced : shear.Reduced := by decide +kernel
  have turnReduced : quarterTurn.Reduced := by decide +kernel
  have pointReduced (k : Fin 2) : (![⟨1, 3⟩, 1] k : Fraction).Reduced := by
    revert k
    decide +kernel
  obtain ⟨-, -, bracketings, neutral, applications, -⟩ :=
    products_exact shearReduced turnReduced shearReduced pointReduced
  have first : mul ⟨2, shear⟩ ⟨2, quarterTurn⟩ = .ok ⟨2, shearedTurn⟩ := by decide +kernel
  have second : mul ⟨2, quarterTurn⟩ ⟨2, shear⟩ = .ok ⟨2, turnedShear⟩ := by decide +kernel
  have turned : apply ⟨2, quarterTurn⟩ [⟨1, 3⟩, 1] = .ok [⟨-1, 1⟩, ⟨1, 3⟩] := by decide +kernel
  refine ⟨shearReduced, turnReduced, first, second, ?_, (neutral _ rfl).1, turned, ?_⟩
  · have third : mul ⟨2, shearedTurn⟩ ⟨2, shear⟩ = .ok ⟨2, ⟨#v[#v[⟨1, 2⟩, ⟨-3, 4⟩], #v[1, ⟨1, 2⟩]]⟩⟩ := by
      decide +kernel
    obtain ⟨other, fourth⟩ := Checked.exists_ok_of_isSome (x := mul ⟨2, shear⟩ ⟨2, turnedShear⟩)
      (by decide +kernel)
    have same := ((bracketings.of_eq_ok first).of_eq_ok third).of_eq_ok second
    exact ⟨_, third, same.of_eq_ok fourth ▸ fourth⟩
  · obtain ⟨moved, direct⟩ := Checked.exists_ok_of_isSome (x := apply ⟨2, shearedTurn⟩ [⟨1, 3⟩, 1])
      (by decide +kernel)
    obtain ⟨other, around⟩ := Checked.exists_ok_of_isSome (x := apply ⟨2, shear⟩ [⟨-1, 1⟩, ⟨1, 3⟩])
      (by decide +kernel)
    have same := ((applications.of_eq_ok first).of_eq_ok direct).of_eq_ok turned
    exact ⟨moved, direct, same.of_eq_ok around ▸ around⟩

end SquareMatrix

end CurveForge
