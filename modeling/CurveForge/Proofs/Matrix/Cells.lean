import Mathlib
import CurveForge.Matrix.Square
import CurveForge.Proofs.Matrix.Composition

/-!
# Cells of a matrix

A cell can be read and replaced at its row-major position, as long as the number of
cells is a word. Loops over the cells of a row, over the rows or over two rows at once
replace the entries of a vector one after another, which is computing all new entries
and replacing them at the end.
-/

namespace CurveForge

namespace Checked

variable {α σ : Type} {n k : Nat}

/-- A vector whose first entries have been replaced. -/
def replaced (results : Vector α k) (v : Vector α n) : Vector α n :=
  Vector.ofFn fun i => if below : i < k then results.get ⟨i, below⟩ else v.get i

theorem get_replaced (results : Vector α k) (v : Vector α n) (i : Fin n) :
    (replaced results v).get i = if below : i < k then results.get ⟨i, below⟩ else v.get i := by
  simp [replaced, Vector.get_eq_getElem]

theorem ext_get {v w : Vector α n} (same : ∀ i, v.get i = w.get i) : v = w := by
  ext i bound
  exact same ⟨i, bound⟩

theorem get_set (v : Vector α n) (i j : Fin n) (a : α) :
    (v.set i a i.isLt).get j = if i = j then a else v.get j := by
  simp [Vector.get_eq_getElem, Vector.getElem_set, Fin.ext_iff]

theorem replaced_push (results : Vector α k) (v : Vector α n) (a : α) (inside : k < n) :
    replaced (results.push a) v = (replaced results v).set k a inside := by
  apply ext_get
  intro i
  have placed := get_set (replaced results v) ⟨k, inside⟩ i a
  rw [get_replaced] at placed
  rw [placed, get_replaced]
  by_cases last : k = i
  · subst last
    simp [Vector.get_eq_getElem]
  · have other : (⟨k, inside⟩ : Fin n) ≠ i := fun same => last (congrArg Fin.val same)
    rw [if_neg other]
    by_cases below : i < k
    · have before : (i : Nat) < k + 1 := by omega
      rw [dif_pos below, dif_pos before]
      simp [Vector.get_eq_getElem, below]
    · have behind : ¬(i : Nat) < k + 1 := by omega
      rw [dif_neg below, dif_neg behind]

/-- The loop over the first entries. The induction is on their number; a step reads the entry that
the steps before it have left as it was. -/
theorem foldlM_replaced {state : Vector α n → σ} {body : σ → Fin n → Checked σ}
    {f : Fin n → α → Checked α}
    (each : ∀ v i, body (state v) i = (fun a => state (v.set i a i.isLt)) <$> f i (v.get i))
    (v : Vector α n) (bound : k ≤ n) :
    ((List.finRange k).map (Fin.castLE bound)).foldlM body (state v) =
      (fun results => state (replaced results v)) <$>
        Vector.ofFnM fun i : Fin k => f (i.castLE bound) (v.get (i.castLE bound)) := by
  induction k with
  | zero =>
      have none : replaced (#v[] : Vector α 0) v = v := ext_get fun i => by
        rw [get_replaced, dif_neg (Nat.not_lt_zero _)]
      rw [Vector.ofFnM_zero, map_pure, none]
      rfl
  | succ k ih =>
      have inside : k < n := bound
      have front : (List.finRange (k + 1)).map (Fin.castLE bound) =
          (List.finRange k).map (Fin.castLE inside.le) ++ [⟨k, inside⟩] := by
        rw [List.finRange_succ_last, List.map_append, List.map_map]
        rfl
      have last (results : Vector α k) :
          (replaced results v).get ⟨k, inside⟩ = v.get ⟨k, inside⟩ := by
        rw [get_replaced, dif_neg (lt_irrefl k)]
      rw [front, List.foldlM_append, ih inside.le, Vector.ofFnM_succ]
      simp only [List.foldlM_cons, List.foldlM_nil, bind_pure, map_bind, bind_map_left, each, last,
        map_pure, replaced_push _ _ _ inside]
      rfl

/-- A loop over all entries that replaces each of them computes all results one after another. -/
theorem foldlM_entries (state : Vector α n → σ) {body : σ → Nat → Checked σ}
    (f : Fin n → α → Checked α)
    (each : ∀ (v : Vector α n) (i : Fin n),
      body (state v) i = (fun a => state (v.set i a i.isLt)) <$> f i (v.get i))
    (v : Vector α n) :
    (List.range n).foldlM body (state v) = state <$> Vector.ofFnM fun i => f i (v.get i) := by
  have all (results : Vector α n) : replaced results v = results := ext_get fun i => by
    rw [get_replaced, dif_pos i.isLt]
  have loop : (List.range n).foldlM body (state v) =
      ((List.finRange n).map (Fin.castLE le_rfl)).foldlM (fun s (i : Fin n) => body s i)
        (state v) := by
    rw [← List.map_coe_finRange_eq_range, List.foldlM_map, List.foldlM_map]
    rfl
  rw [loop, foldlM_replaced each v le_rfl]
  simp only [all]
  rfl

end Checked

namespace SquareMatrix

variable {n : Nat}

theorem position_lt (r c : Fin n) : r * n + c < n * n :=
  calc r * n + c < r * n + n := Nat.add_lt_add_left c.isLt _
    _ = (r + 1) * n := by ring
    _ ≤ n * n := Nat.mul_le_mul_right n r.isLt

theorem div_position (r c : Fin n) : (r * n + c) / n = r := by
  rw [Nat.mul_comm, Nat.mul_add_div r.pos, Nat.div_eq_of_lt c.isLt, Nat.add_zero]

theorem mod_position (r c : Fin n) : (r * n + c) % n = c := by
  rw [Nat.mul_comm, Nat.mul_add_mod, Nat.mod_eq_of_lt c.isLt]

theorem position_of_fin (small : n * n < Word.limit) (grid : Grid Fraction n) (r c : Fin n) :
    position ⟨n, grid⟩ r c = .ok (r * n + c) := by
  have inside := position_lt r c
  have start : Word.mul r n = .ok (r * n) := if_pos (by omega)
  have cell : Word.add (r * n) c = .ok (r * n + c) := if_pos (by omega)
  rw [position, start]
  exact cell

theorem getElem?_cells (grid : Grid Fraction n) (r c : Fin n) :
    (cells ⟨n, grid⟩)[r * n + c]? = some (grid.entry r c) := by
  have flat : cells ⟨n, grid⟩ = grid.rows.flatten.toList := by
    simp only [Vector.flatten, Vector.toList_mk, Array.toList_flatten, Array.toList_map, List.map_map]
    rfl
  rw [flat, Vector.getElem?_toList, Vector.getElem?_eq_getElem (position_lt r c),
    Vector.getElem_flatten]
  simp only [div_position, mod_position]
  rfl

theorem get_of_fin (small : n * n < Word.limit) (grid : Grid Fraction n) (r c : Fin n) :
    get ⟨n, grid⟩ r c = .ok (grid.entry r c) := by
  rw [get, position_of_fin small]
  simp only [bind, Except.bind, getElem?_cells]
  rfl

theorem put_of_fin (small : n * n < Word.limit) (grid : Grid Fraction n) (r c : Fin n)
    (value : Fraction) : put ⟨n, grid⟩ r c value = .ok ⟨n, grid.set r c value⟩ := by
  rw [put, position_of_fin small]
  simp only [bind, Except.bind, position_lt, dif_pos, div_position, mod_position]
  rfl

end SquareMatrix

namespace Grid

variable {α β : Type} {n : Nat}

theorem entry_set (grid : Grid α n) (r c i j : Fin n) (value : α) :
    (grid.set r c value).entry i j = if i = r ∧ j = c then value else grid.entry i j :=
  entry_ofFn _ i j

theorem set_map (f : α → β) (grid : Grid α n) (r c : Fin n) (value : α) :
    (grid.map f).set r c (f value) = (grid.set r c value).map f := by
  apply ext_entry
  intro i j
  rw [entry_set, entry_map, entry_map, entry_set]
  split <;> rfl

def setRow (grid : Grid α n) (r : Fin n) (cells : Vector α n) : Grid α n :=
  ⟨grid.rows.set r cells r.isLt⟩

theorem row_setRow (grid : Grid α n) (r i : Fin n) (cells : Vector α n) :
    (grid.setRow r cells).row i = if r = i then cells else grid.row i :=
  Checked.get_set grid.rows r i cells

theorem entry_setRow (grid : Grid α n) (r i c : Fin n) (cells : Vector α n) :
    (grid.setRow r cells).entry i c = if r = i then cells.get c else grid.entry i c := by
  rw [entry, row_setRow]
  split <;> rfl

/-- Replacing a cell of a row is replacing the cell and then the row. -/
theorem set_setRow (grid : Grid α n) (r c : Fin n) (cells : Vector α n) (cell : α) :
    (grid.setRow r cells).set r c cell = grid.setRow r (cells.set c cell c.isLt) := by
  apply ext_entry
  intro i j
  rw [entry_set, entry_setRow, entry_setRow, Checked.get_set]
  by_cases same : r = i
  · subst same
    by_cases here : c = j
    · simp [here]
    · simp [here, Ne.symm here]
  · simp [same, Ne.symm same]

theorem setRow_row (grid : Grid α n) (r : Fin n) : grid.setRow r (grid.row r) = grid := by
  apply ext_entry
  intro i c
  rw [entry_setRow]
  split
  next same => rw [same]; rfl
  next => rfl

def rowPairs (grid : Grid Fraction n) (r s : Fin n) : Vector (Fraction × Fraction) n :=
  Vector.ofFn fun c => (grid.entry r c, grid.entry s c)

theorem get_rowPairs (grid : Grid Fraction n) (r s c : Fin n) :
    (grid.rowPairs r s).get c = (grid.entry r c, grid.entry s c) := by
  simp [rowPairs, Vector.get_eq_getElem]

/-- A grid in which two rows have been replaced by cells that are given in pairs. -/
def withRows (grid : Grid Fraction n) (r s : Fin n) (cells : Vector (Fraction × Fraction) n) :
    Grid Fraction n :=
  ofFn fun i c =>
    if i = r then (cells.get c).1 else if i = s then (cells.get c).2 else grid.entry i c

def exchanged (grid : Grid Fraction n) (r s : Fin n) : Grid Fraction n :=
  ofFn fun i c => grid.entry (Equiv.swap r s i) c

theorem withRows_rowPairs (grid : Grid Fraction n) (r s : Fin n) :
    grid.withRows r s (grid.rowPairs r s) = grid := by
  apply ext_entry
  intro i c
  rw [withRows, entry_ofFn, get_rowPairs]
  split
  next first => rw [first]
  next =>
    split
    next second => rw [second]
    next => rfl

theorem withRows_swapped (grid : Grid Fraction n) (r s : Fin n) :
    grid.withRows r s (grid.rowPairs s r) = grid.exchanged r s := by
  apply ext_entry
  intro i c
  rw [withRows, exchanged, entry_ofFn, entry_ofFn, get_rowPairs, Equiv.swap_apply_def]
  split
  next => rfl
  next =>
    split
    next => rfl
    next => rfl

/-- Replacing a cell in both rows is replacing a pair. -/
theorem set_withRows (grid : Grid Fraction n) {r s : Fin n} (apart : r ≠ s) (c : Fin n)
    (cells : Vector (Fraction × Fraction) n) (pair : Fraction × Fraction) :
    ((grid.withRows r s cells).set r c pair.1).set s c pair.2 =
      grid.withRows r s (cells.set c pair c.isLt) := by
  apply ext_entry
  intro i j
  simp only [withRows, entry_set, entry_ofFn, Checked.get_set]
  by_cases first : i = r
  · subst first
    by_cases here : j = c
    · simp [apart, here]
    · simp [apart, here, Ne.symm here]
  · by_cases second : i = s
    · subst second
      by_cases here : j = c
      · simp [first, here]
      · simp [first, here, Ne.symm here]
    · simp [first, second]

end Grid

end CurveForge
