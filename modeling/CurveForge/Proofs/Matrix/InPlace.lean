import Mathlib
import CurveForge.Matrix.Elimination
import CurveForge.Proofs.Matrix.Cells

/-!
# Elimination in place

Elimination can also be carried out on the cells of a matrix and of its partner, one
cell after another. Every cell is then read and written at its row-major position, and
every position is compared with the number of cells. Where the number of cells is a word
this ends exactly as elimination on whole rows does, so no position is ever refused.
-/

namespace CurveForge

namespace SquareMatrix

def exchangeCells (m : SquareMatrix) (r s c : Nat) : Checked SquareMatrix := do
  let upper ← m.get r c
  let lower ← m.get s c
  let m ← m.put r c lower
  m.put s c upper

def exchangeRows (m : SquareMatrix) (r s : Nat) : Checked SquareMatrix :=
  (List.range m.size).foldlM (fun m c => m.exchangeCells r s c) m

def findPivot? (m : SquareMatrix) (col : Nat) : List Nat → Checked (Option Nat)
  | [] => return none
  | r :: rest => do
      let cell ← m.get r col
      if cell.isZero then m.findPivot? col rest else return some r

end SquareMatrix

/-- A matrix that is being cleared, and the matrix that receives the same row operations. -/
structure Workspace where
  matrix : SquareMatrix
  partner : SquareMatrix

namespace Workspace

def exchangeRows (w : Workspace) (r s : Nat) : Checked Workspace := do
  let matrix ← w.matrix.exchangeRows r s
  let partner ← w.partner.exchangeRows r s
  return ⟨matrix, partner⟩

def scaleCell (w : Workspace) (row : Nat) (scale : Fraction) (c : Nat) : Checked Workspace := do
  let cell ← w.matrix.get row c
  let cell ← cell.mul scale
  let matrix ← w.matrix.put row c cell
  let cell ← w.partner.get row c
  let cell ← cell.mul scale
  let partner ← w.partner.put row c cell
  return ⟨matrix, partner⟩

def scaleRow (w : Workspace) (row : Nat) (scale : Fraction) : Checked Workspace :=
  (List.range w.matrix.size).foldlM (fun w c => w.scaleCell row scale c) w

def subtractCell (w : Workspace) (row other : Nat) (factor : Fraction) (c : Nat) :
    Checked Workspace := do
  let cell ← w.matrix.get row c
  let multiple ← factor.mul (← w.matrix.get other c)
  let cell ← cell.sub multiple
  let matrix ← w.matrix.put row c cell
  let cell ← w.partner.get row c
  let multiple ← factor.mul (← w.partner.get other c)
  let cell ← cell.sub multiple
  let partner ← w.partner.put row c cell
  return ⟨matrix, partner⟩

def subtractRow (w : Workspace) (row other : Nat) (factor : Fraction) : Checked Workspace :=
  (List.range w.matrix.size).foldlM (fun w c => w.subtractCell row other factor c) w

/-- Clears a column in a row, unless it is clear. -/
def clearRow (w : Workspace) (row col : Nat) : Checked Workspace := do
  let factor ← w.matrix.get row col
  if factor.isZero then return w else w.subtractRow row col factor

def clearColumn (w : Workspace) (col : Nat) (scale : Fraction) : Checked Workspace := do
  let w ← w.scaleRow col scale
  ((List.range w.matrix.size).filter (· ≠ col)).foldlM (fun w row => w.clearRow row col) w

/-- Exchanges the row of the pivot with the row of the column, unless they are the same. -/
def placePivot (w : Workspace) (pivot col : Nat) : Checked Workspace :=
  if pivot = col then .ok w else w.exchangeRows pivot col

def step? (w : Workspace) (col : Nat) : Checked (Option Workspace) := do
  match ← w.matrix.findPivot? col ((List.range w.matrix.size).filter (col ≤ ·)) with
  | none => return none
  | some pivot =>
      let w ← w.placePivot pivot col
      let corner ← w.matrix.get col col
      match ← corner.recip? with
      | none => return none
      | some scale => return some (← w.clearColumn col scale)

def clearColumns? (w : Workspace) : List Nat → Checked (Option Workspace)
  | [] => return some w
  | col :: rest => do
      match ← w.step? col with
      | none => return none
      | some next => clearColumns? next rest

end Workspace

/-- The inverse of a matrix, or nothing if it is singular, by elimination in place. -/
def SquareMatrix.inverseInPlace? (m : SquareMatrix) : Checked (Option SquareMatrix) := do
  let partner ← identity m.size
  let cleared ← (⟨m, partner⟩ : Workspace).clearColumns? (List.range m.size)
  return cleared.map Workspace.partner

/-! ## Rows of a grid and its partner -/

namespace Augmented

variable {n : Nat}

def workspace (a : Augmented n) : Workspace :=
  ⟨⟨n, Grid.map Paired.left a⟩, ⟨n, Grid.map Paired.right a⟩⟩

end Augmented

theorem SquareMatrix.exchangeRows_of_fin {n : Nat} (small : n * n < Word.limit)
    (grid : Grid Fraction n) {r s : Fin n} (apart : r ≠ s) :
    exchangeRows ⟨n, grid⟩ r s = .ok ⟨n, grid.exchanged r s⟩ := by
  have each (cells : Vector (Fraction × Fraction) n) (c : Fin n) :
      exchangeCells ⟨n, grid.withRows r s cells⟩ r s c =
        (fun pair => (⟨n, grid.withRows r s (cells.set c pair)⟩ : SquareMatrix)) <$>
          (.ok (cells.get c).swap : Checked (Fraction × Fraction)) := by
    have upper : (grid.withRows r s cells).entry r c = (cells.get c).1 := by
      rw [Grid.withRows, Grid.entry_ofFn, if_pos rfl]
    have lower : (grid.withRows r s cells).entry s c = (cells.get c).2 := by
      rw [Grid.withRows, Grid.entry_ofFn, if_neg (Ne.symm apart), if_pos rfl]
    have placed := grid.set_withRows apart c cells (cells.get c).swap
    rw [Prod.fst_swap, Prod.snd_swap] at placed
    unfold exchangeCells
    simp only [get_of_fin small, put_of_fin small, upper, lower, bind, Except.bind, placed]
    rfl
  have loop : (List.range n).foldlM (fun (m : SquareMatrix) c => m.exchangeCells r s c)
      ⟨n, grid.withRows r s (grid.rowPairs r s)⟩ =
        (fun cells => (⟨n, grid.withRows r s cells⟩ : SquareMatrix)) <$>
          Vector.ofFnM fun c => (.ok ((grid.rowPairs r s).get c).swap : Checked _) :=
    Checked.foldlM_entries (fun cells => (⟨n, grid.withRows r s cells⟩ : SquareMatrix))
      (fun _ pair => .ok pair.swap) each _
  simp only [Grid.get_rowPairs, Prod.swap_prod_mk] at loop
  have pairs : (Vector.ofFnM fun c => (.ok (grid.entry s c, grid.entry r c) : Checked _)) =
      .ok (grid.rowPairs s r) := Vector.ofFnM_pure
  rw [pairs, grid.withRows_rowPairs] at loop
  rw [← grid.withRows_swapped]
  exact loop

namespace Augmented

open Grid (setRow row_setRow entry_setRow set_setRow setRow_row)

variable {n : Nat}

/-- The matrices after a cell of each has been replaced. -/
theorem workspace_set (a : Augmented n) (r c : Fin n) (cell : Paired) :
    (⟨⟨n, (Grid.map Paired.left a).set r c cell.left⟩,
      ⟨n, (Grid.map Paired.right a).set r c cell.right⟩⟩ : Workspace) =
        workspace (Grid.set a r c cell) := by
  rw [workspace, ← Grid.set_map, ← Grid.set_map]

/-- What becomes of a row when a column is cleared: the row of the pivot stays. -/
def clearedOther (pivotRow : Vector Paired n) (col r : Fin n) (row : Vector Paired n) :
    Checked (Vector Paired n) :=
  if r = col then .ok pivotRow else clearedRow pivotRow row col

theorem swapRows_self (a : Augmented n) (r : Fin n) : a.swapRows r r = a := by
  apply Grid.ext_entry
  intro i c
  rw [entry_swapRows, Equiv.swap_self]
  rfl

variable (small : n * n < Word.limit)
include small

theorem get_matrix (a : Augmented n) (r c : Fin n) :
    a.workspace.matrix.get r c = .ok (Grid.entry a r c).left :=
  (SquareMatrix.get_of_fin small _ r c).trans (congrArg Except.ok (Grid.entry_map _ a r c))

theorem scaleCell_workspace (a : Augmented n) (row c : Fin n) (scale : Fraction) :
    a.workspace.scaleCell row scale c =
      (fun cell => workspace (Grid.set a row c cell)) <$> (Grid.entry a row c).scale scale := by
  unfold Workspace.scaleCell Paired.scale
  simp only [workspace, SquareMatrix.get_of_fin small, SquareMatrix.put_of_fin small,
    Grid.entry_map, bind, Except.bind]
  cases (Grid.entry a row c).left.mul scale with
  | error fault => rfl
  | ok left =>
      cases (Grid.entry a row c).right.mul scale with
      | error fault => rfl
      | ok right =>
          exact congrArg Except.ok (workspace_set a row c ⟨left, right⟩)

theorem scaleRow_workspace (a : Augmented n) (row : Fin n) (scale : Fraction) :
    a.workspace.scaleRow row scale = (fun cells => workspace (a.setRow row cells)) <$>
      Vector.ofFnM fun c => (Grid.entry a row c).scale scale := by
  have each (cells : Vector Paired n) (c : Fin n) :
      (workspace (a.setRow row cells)).scaleCell row scale c =
        (fun cell => workspace (a.setRow row (cells.set c cell))) <$>
          (cells.get c).scale scale := by
    simp only [scaleCell_workspace small, set_setRow, entry_setRow, if_true]
  have loop : (List.range n).foldlM (fun w c => w.scaleCell row scale c)
      (workspace (a.setRow row (Grid.row a row))) = (fun cells => workspace (a.setRow row cells)) <$>
        Vector.ofFnM fun c => ((Grid.row a row).get c).scale scale :=
    Checked.foldlM_entries (fun cells => workspace (a.setRow row cells))
      (fun _ cell => cell.scale scale) each _
  rw [setRow_row] at loop
  exact loop

theorem subtractCell_workspace (a : Augmented n) (row other c : Fin n) (factor : Fraction) :
    a.workspace.subtractCell row other factor c =
      (fun cell => workspace (Grid.set a row c cell)) <$>
        (Grid.entry a row c).clear factor (Grid.entry a other c) := by
  unfold Workspace.subtractCell Paired.clear
  simp only [workspace, SquareMatrix.get_of_fin small, SquareMatrix.put_of_fin small,
    Grid.entry_map, bind, Except.bind]
  cases factor.mul (Grid.entry a other c).left with
  | error fault => rfl
  | ok multiple =>
      dsimp only
      cases (Grid.entry a row c).left.sub multiple with
      | error fault => rfl
      | ok left =>
          dsimp only
          cases factor.mul (Grid.entry a other c).right with
          | error fault => rfl
          | ok multiple =>
              dsimp only
              cases (Grid.entry a row c).right.sub multiple with
              | error fault => rfl
              | ok right => exact congrArg Except.ok (workspace_set a row c ⟨left, right⟩)

theorem subtractRow_workspace (a : Augmented n) {row other : Fin n} (apart : row ≠ other)
    (factor : Fraction) :
    a.workspace.subtractRow row other factor = (fun cells => workspace (a.setRow row cells)) <$>
      Vector.ofFnM fun c => (Grid.entry a row c).clear factor (Grid.entry a other c) := by
  have each (cells : Vector Paired n) (c : Fin n) :
      (workspace (a.setRow row cells)).subtractCell row other factor c =
        (fun cell => workspace (a.setRow row (cells.set c cell))) <$>
          (cells.get c).clear factor (Grid.entry a other c) := by
    simp only [subtractCell_workspace small, set_setRow, entry_setRow, if_true, apart, if_false]
  have loop : (List.range n).foldlM (fun w c => w.subtractCell row other factor c)
      (workspace (a.setRow row (Grid.row a row))) = (fun cells => workspace (a.setRow row cells)) <$>
        Vector.ofFnM fun c => ((Grid.row a row).get c).clear factor (Grid.entry a other c) :=
    Checked.foldlM_entries (fun cells => workspace (a.setRow row cells))
      (fun c cell => cell.clear factor (Grid.entry a other c)) each _
  rw [setRow_row] at loop
  exact loop

theorem clearRow_workspace (a : Augmented n) {row col : Fin n} (apart : row ≠ col) :
    a.workspace.clearRow row col = (fun cells => workspace (a.setRow row cells)) <$>
      clearedRow (Grid.row a col) (Grid.row a row) col := by
  unfold Workspace.clearRow clearedRow
  rw [get_matrix small]
  change (if (Grid.entry a row col).left.isZero then _ else _ : Checked Workspace) =
    _ <$> (if (Grid.entry a row col).left.isZero then _ else _ : Checked (Vector Paired n))
  split
  · exact congrArg (Except.ok ∘ workspace) (setRow_row a row).symm
  · exact subtractRow_workspace small a apart _

/-- In a step, the row of the pivot stays as it is and every other row is cleared. -/
theorem clearRow_step (rows : Vector (Vector Paired n) n) (pivotRow : Vector Paired n)
    (r col : Fin n) :
    (if decide ((r : Nat) ≠ col) = true then
        (workspace (setRow ⟨rows⟩ col pivotRow)).clearRow r col
      else pure (workspace (setRow ⟨rows⟩ col pivotRow))) =
      (fun row => workspace (setRow ⟨rows.set r row r.isLt⟩ col pivotRow)) <$>
        clearedOther pivotRow col r (rows.get r) := by
  unfold clearedOther
  by_cases diagonal : r = col
  · subst diagonal
    have again : setRow ⟨rows.set r pivotRow⟩ r pivotRow = setRow ⟨rows⟩ r pivotRow :=
      congrArg Grid.mk (Vector.set_set ..)
    simp only [if_true, ne_eq, not_true_eq_false, decide_false, Bool.false_eq_true, if_false]
    exact congrArg (Except.ok ∘ workspace) again.symm
  · have other : (r : Nat) ≠ col := fun same => diagonal (Fin.ext same)
    have cleared := clearRow_workspace small (setRow ⟨rows⟩ col pivotRow) diagonal
    rw [row_setRow, row_setRow, if_pos rfl, if_neg (Ne.symm diagonal)] at cleared
    have swapped (row : Vector Paired n) :
        (setRow ⟨rows⟩ col pivotRow).setRow r row = setRow ⟨rows.set r row⟩ col pivotRow :=
      congrArg Grid.mk (Vector.set_comm _ _ (Ne.symm other))
    simp only [diagonal, if_false, other, ne_eq, not_false_eq_true, decide_true, if_true, cleared,
      swapped]
    rfl

/-- The rows are cleared one after another, the row of the pivot excepted. -/
theorem clearColumn_workspace (a : Augmented n) (col : Fin n) (scale : Fraction) :
    a.workspace.clearColumn col scale = workspace <$> a.clearColumn col scale := by
  unfold Workspace.clearColumn Augmented.clearColumn
  rw [scaleRow_workspace small]
  cases Vector.ofFnM fun c => (Grid.entry a col c).scale scale with
  | error fault => rfl
  | ok pivotRow =>
      have loop : (List.range n).foldlM
          (fun w (r : Nat) => if decide (r ≠ col) = true then w.clearRow r col else pure w)
          (workspace (setRow ⟨a.rows⟩ col pivotRow)) =
            (fun rows => workspace (setRow ⟨rows⟩ col pivotRow)) <$>
              Vector.ofFnM fun r => clearedOther pivotRow col r (a.rows.get r) :=
        Checked.foldlM_entries (fun rows => workspace (setRow ⟨rows⟩ col pivotRow))
          (clearedOther pivotRow col) (fun rows r => clearRow_step small rows pivotRow r col) _
      change ((List.range n).filter (fun (r : Nat) => decide (r ≠ col))).foldlM
        (fun w (r : Nat) => w.clearRow r col) (workspace (setRow ⟨a.rows⟩ col pivotRow)) =
          workspace <$> ((Vector.ofFnM fun r => clearedOther pivotRow col r (a.rows.get r)) >>=
            fun rows => pure ⟨rows⟩)
      rw [List.foldlM_filter, loop]
      cases computed : Vector.ofFnM fun r => clearedOther pivotRow col r (a.rows.get r) with
      | error fault => rfl
      | ok rows =>
          have cleared : clearedOther pivotRow col col (a.rows.get col) = .ok (rows.get col) :=
            Checked.eq_ok_of_ofFnM computed col
          have untouched : clearedOther pivotRow col col (a.rows.get col) = .ok pivotRow := if_pos rfl
          have kept : setRow ⟨rows⟩ col pivotRow = ⟨rows⟩ := by
            rw [Except.ok.inj (untouched.symm.trans cleared)]
            exact setRow_row ⟨rows⟩ col
          exact congrArg (Except.ok ∘ workspace) kept

theorem findPivot?_workspace (a : Augmented n) (col : Fin n) (rows : List (Fin n)) :
    a.workspace.matrix.findPivot? col (rows.map Fin.val) =
      .ok ((rows.find? fun r => !(Grid.entry a r col).left.isZero).map Fin.val) := by
  induction rows with
  | nil => rfl
  | cons r rows ih =>
      rw [List.map_cons, SquareMatrix.findPivot?, get_matrix small, List.find?_cons]
      cases zero : (Grid.entry a r col).left.isZero with
      | true =>
          simp only [bind, Except.bind, zero, if_true, ih, Bool.not_true]
      | false =>
          simp only [bind, Except.bind, zero, Bool.not_false]
          rfl

/-- The search from the diagonal on finds the pivot. -/
theorem findPivot?_from_diagonal (a : Augmented n) (col : Fin n) :
    a.workspace.matrix.findPivot? col ((List.range n).filter (col ≤ ·)) =
      .ok ((a.pivot? col).map Fin.val) := by
  have rows : (List.range n).filter ((col : Nat) ≤ ·) =
      ((List.finRange n).filter fun r => col ≤ r).map Fin.val := by
    rw [← List.map_coe_finRange_eq_range, List.filter_map]
    rfl
  rw [rows, findPivot?_workspace small, List.find?_filter, pivot?]
  simp only [Bool.decide_and, Bool.decide_eq_true, decide_eq_true_eq]

theorem exchangeRows_workspace (a : Augmented n) {r s : Fin n} (apart : r ≠ s) :
    a.workspace.exchangeRows r s = .ok (a.swapRows r s).workspace := by
  have exchanged (f : Paired → Fraction) :
      (Grid.map f a).exchanged r s = Grid.map f (a.swapRows r s) := by
    apply Grid.ext_entry
    intro i c
    rw [Grid.exchanged, Grid.entry_ofFn, Grid.entry_map, Grid.entry_map, entry_swapRows]
  unfold Workspace.exchangeRows
  simp only [workspace, SquareMatrix.exchangeRows_of_fin small _ apart, exchanged, bind, Except.bind]
  rfl

theorem placePivot_workspace (a : Augmented n) (pivot col : Fin n) :
    a.workspace.placePivot pivot col = .ok (a.swapRows pivot col).workspace := by
  unfold Workspace.placePivot
  split
  next same => rw [Fin.ext same, swapRows_self]
  next apart => exact exchangeRows_workspace small a fun same => apart (congrArg Fin.val same)

/-- One step in place is one step on whole rows. -/
theorem step?_workspace (a : Augmented n) (col : Fin n) :
    a.workspace.step? col = Option.map workspace <$> a.step? col := by
  unfold Workspace.step? Augmented.step?
  change (a.workspace.matrix.findPivot? col ((List.range n).filter (col ≤ ·)) >>= _) = _
  rw [findPivot?_from_diagonal small]
  cases a.pivot? col with
  | none => rfl
  | some pivot =>
      change (a.workspace.placePivot pivot col >>= _) = _
      rw [placePivot_workspace small]
      change ((a.swapRows pivot col).workspace.matrix.get col col >>= _) = _
      rw [get_matrix small]
      change ((Grid.entry (a.swapRows pivot col) col col).left.recip? >>= _) =
        Option.map workspace <$> ((Grid.entry (a.swapRows pivot col) col col).left.recip? >>= _)
      cases (Grid.entry (a.swapRows pivot col) col col).left.recip? with
      | error fault => rfl
      | ok scale? =>
          cases scale? with
          | none => rfl
          | some scale =>
              change ((a.swapRows pivot col).workspace.clearColumn col scale >>= _) =
                Option.map workspace <$> ((a.swapRows pivot col).clearColumn col scale >>= _)
              rw [clearColumn_workspace small]
              cases (a.swapRows pivot col).clearColumn col scale with
              | error fault => rfl
              | ok next => rfl

theorem clearColumns?_workspace (a : Augmented n) (cols : List (Fin n)) :
    a.workspace.clearColumns? (cols.map Fin.val) = Option.map workspace <$> a.clearColumns? cols := by
  induction cols generalizing a with
  | nil => rfl
  | cons col cols ih =>
      rw [List.map_cons, Workspace.clearColumns?, Augmented.clearColumns?, step?_workspace small]
      cases a.step? col with
      | error fault => rfl
      | ok next =>
          cases next with
          | none => rfl
          | some next => exact ih next

end Augmented

/-- Elimination in place is elimination on whole rows. -/
theorem SquareMatrix.inverseInPlace?_eq {m : SquareMatrix} (small : m.size * m.size < Word.limit) :
    m.inverseInPlace? = m.inverse? := by
  obtain ⟨n, grid⟩ := m
  have identity : identity n = .ok ⟨n, Grid.identity n⟩ := by
    have cells : Word.mul n n = .ok (n * n) := if_pos small
    rw [SquareMatrix.identity, cells]
    rfl
  have start : (⟨⟨n, grid⟩, ⟨n, Grid.identity n⟩⟩ : Workspace) =
      (Augmented.ofGrid grid).workspace := by
    have lefts : Grid.map Paired.left (Augmented.ofGrid grid) = grid := Grid.ext_entry fun r c => by
      rw [Grid.entry_map, Augmented.ofGrid, Grid.entry_ofFn]
    have rights : Grid.map Paired.right (Augmented.ofGrid grid) = Grid.identity n :=
      Grid.ext_entry fun r c => by
        rw [Grid.entry_map, Augmented.ofGrid, Grid.entry_ofFn]
    rw [Augmented.workspace, lefts, rights]
  have columns : (List.range n) = (List.finRange n).map Fin.val :=
    List.map_coe_finRange_eq_range.symm
  unfold inverseInPlace? inverse? Grid.inverse?
  simp only [identity, bind, Except.bind, start, columns, Augmented.clearColumns?_workspace small]
  cases (Augmented.ofGrid grid).clearColumns? (List.finRange n) with
  | error fault => rfl
  | ok cleared =>
      cases cleared with
      | none => rfl
      | some cleared => rfl

end CurveForge
