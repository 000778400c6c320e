import Mathlib
import CurveForge.Matrix.Elimination
import CurveForge.Proofs.Fraction.Closed
import CurveForge.Proofs.Matrix.Value

/-!
# Matrices of one kind of fractions

If arithmetic keeps a kind of fractions, so do elimination and products of matrices: all
entries of a result are of the kind, and the faults are those of arithmetic.
-/

namespace CurveForge

open Checked (Ends)

variable {n : Nat} {allowed : Fault → Prop} {kind : Fraction → Prop}

/-- Every entry has a property. -/
def Grid.Each {α : Type} (property : α → Prop) (grid : Grid α n) : Prop :=
  ∀ r c, property (grid.entry r c)

namespace Paired

def Each (kind : Fraction → Prop) (cell : Paired) : Prop := kind cell.left ∧ kind cell.right

variable {factor : Fraction} {cell pivot : Paired}

theorem scale_ends (closed : Fraction.Closed allowed kind) (factorKind : kind factor)
    (each : cell.Each kind) : Ends allowed (cell.scale factor) (Each kind) := by
  apply (closed.mul each.1 factorKind).bind
  intro left leftKind
  apply (closed.mul each.2 factorKind).bind
  intro right rightKind
  exact ⟨leftKind, rightKind⟩

theorem clear_ends (closed : Fraction.Closed allowed kind) (factorKind : kind factor)
    (each : cell.Each kind) (pivotEach : pivot.Each kind) :
    Ends allowed (cell.clear factor pivot) (Each kind) := by
  apply (closed.mul factorKind pivotEach.1).bind
  intro leftMultiple leftMultipleKind
  apply (closed.sub each.1 leftMultipleKind).bind
  intro left leftKind
  apply (closed.mul factorKind pivotEach.2).bind
  intro rightMultiple rightMultipleKind
  apply (closed.sub each.2 rightMultipleKind).bind
  intro right rightKind
  exact ⟨leftKind, rightKind⟩

end Paired

namespace Augmented

variable {a : Augmented n} {col : Fin n}

theorem entry_swapRows (a : Augmented n) (r s i c : Fin n) :
    Grid.entry (a.swapRows r s) i c = Grid.entry a (Equiv.swap r s i) c := by
  simp only [swapRows, Grid.entry, Grid.row, Equiv.swap_apply_def, Vector.get_eq_getElem,
    Vector.getElem_ofFn]
  split
  · rfl
  · split <;> rfl

theorem each_ofGrid (closed : Fraction.Closed allowed kind) {grid : Grid Fraction n}
    (each : grid.Each kind) : Grid.Each (Paired.Each kind) (ofGrid grid) := by
  intro r c
  rw [ofGrid, Grid.entry_ofFn, Grid.identity, Grid.entry_ofFn]
  refine ⟨each r c, ?_⟩
  dsimp only
  split
  · exact closed.one
  · exact closed.zero

/-- A row is left as it is or cleared cell by cell. -/
theorem clearedRow_cells {pivotRow row : Vector Paired n} (relation : Fin n → Paired → Prop)
    (kept : (row.get col).left.isZero = true → ∀ c, relation c (row.get c))
    (cleared : ∀ c, Ends allowed ((row.get c).clear (row.get col).left (pivotRow.get c)) (relation c)) :
    Ends allowed (clearedRow pivotRow row col) fun result => ∀ c, relation c (result.get c) := by
  unfold clearedRow
  by_cases zero : (row.get col).left.isZero = true
  · simp only [zero, if_true]
    exact kept zero
  · simp only [zero]
    exact Checked.ends_ofFnM relation cleared

/-- The row of the pivot is scaled, and the other rows are cleared by the scaled one. -/
theorem clearColumn_cells {scale : Fraction} (relation : Fin n → Fin n → Paired → Prop)
    (scaled : ∀ c, Ends allowed ((Grid.entry a col c).scale scale) (relation col c))
    (cleared : ∀ pivotRow : Vector Paired n, (∀ c, relation col c (pivotRow.get c)) → ∀ r, r ≠ col →
      Ends allowed (clearedRow pivotRow (Grid.row a r) col) fun row => ∀ c, relation r c (row.get c)) :
    Ends allowed (a.clearColumn col scale) fun next => ∀ r c, relation r c (Grid.entry next r c) := by
  apply (Checked.ends_ofFnM (relation col) scaled).bind
  intro pivotRow pivotHolds
  have rows : Ends allowed
      (Vector.ofFnM fun r => if r = col then .ok pivotRow
        else clearedRow pivotRow (Grid.row a r) col) fun rows =>
        ∀ r, ∀ c, relation r c ((rows.get r).get c) := by
    apply Checked.ends_ofFnM fun r (row : Vector Paired n) => ∀ c, relation r c (row.get c)
    intro r
    split
    next diagonal => exact diagonal ▸ pivotHolds
    next other => exact cleared pivotRow pivotHolds r other
  exact rows.bind fun rows holds => holds

theorem clearedRow_ends (closed : Fraction.Closed allowed kind) {pivotRow row : Vector Paired n}
    (pivotEach : ∀ c, (pivotRow.get c).Each kind) (each : ∀ c, (row.get c).Each kind) :
    Ends allowed (clearedRow pivotRow row col) fun cleared => ∀ c, (cleared.get c).Each kind :=
  clearedRow_cells (fun _ cell => cell.Each kind) (fun _ => each) fun c =>
    Paired.clear_ends closed (each col).1 (each c) (pivotEach c)

theorem clearColumn_ends (closed : Fraction.Closed allowed kind) {scale : Fraction}
    (each : Grid.Each (Paired.Each kind) a) (scaleKind : kind scale) :
    Ends allowed (a.clearColumn col scale) (Grid.Each (Paired.Each kind)) :=
  clearColumn_cells (fun _ _ cell => cell.Each kind)
    (fun c => Paired.scale_ends closed scaleKind (each col c))
    fun _ pivotEach r _ => clearedRow_ends closed pivotEach (each r)

theorem step?_ends (closed : Fraction.Closed allowed kind) (each : Grid.Each (Paired.Each kind) a) :
    Ends allowed (a.step? col) fun next => ∀ cleared ∈ next, Grid.Each (Paired.Each kind) cleared := by
  unfold step?
  cases a.pivot? col with
  | none => exact fun _ absent => nomatch absent
  | some pivot =>
      have swapped : Grid.Each (Paired.Each kind) (a.swapRows pivot col) := by
        intro r c
        rw [entry_swapRows]
        exact each _ c
      apply (closed.inverse (swapped col col).1).bind
      intro inverse holds
      cases inverse with
      | none => exact fun _ absent => nomatch absent
      | some scale =>
          apply (clearColumn_ends closed swapped (holds scale rfl)).bind
          rintro next cleared _ ⟨⟩
          exact cleared

theorem clearColumns?_ends (closed : Fraction.Closed allowed kind) (columns : List (Fin n))
    (each : Grid.Each (Paired.Each kind) a) :
    Ends allowed (a.clearColumns? columns) fun result =>
      ∀ cleared ∈ result, Grid.Each (Paired.Each kind) cleared := by
  induction columns generalizing a with
  | nil =>
      rintro _ ⟨⟩
      exact each
  | cons col rest ih =>
      apply (step?_ends closed each).bind
      intro next holds
      cases next with
      | none => exact fun _ absent => nomatch absent
      | some next => exact ih (holds next rfl)

end Augmented

theorem Grid.inverse?_ends (closed : Fraction.Closed allowed kind) {grid : Grid Fraction n}
    (each : grid.Each kind) :
    Ends allowed grid.inverse? fun result => ∀ inverse ∈ result, inverse.Each kind := by
  apply (Augmented.clearColumns?_ends closed _ (Augmented.each_ofGrid closed each)).bind
  intro cleared holds inverse chosen
  obtain ⟨final, found, rfl⟩ := Option.map_eq_some_iff.mp chosen
  intro r c
  rw [Augmented.partner, entry_map]
  exact (holds final found r c).2

theorem Fraction.dot_ends (closed : Closed allowed kind) {pairs : List (Fraction × Fraction)}
    (each : ∀ pair ∈ pairs, kind pair.1 ∧ kind pair.2) : Ends allowed (dot pairs) kind := by
  let invariant : List (Fraction × Fraction) → Fraction → Prop := fun rest total =>
    (∀ pair ∈ rest, kind pair.1 ∧ kind pair.2) ∧ kind total
  have run : Ends allowed (dot pairs) (invariant []) := by
    refine Checked.ends_foldlM ?_ (⟨each, closed.zero⟩ : invariant pairs 0)
    rintro pair rest total ⟨entries, totalKind⟩
    obtain ⟨⟨left, right⟩, later⟩ := List.forall_mem_cons.mp entries
    apply (closed.mul left right).bind
    intro product productKind
    exact (closed.add totalKind productKind).mono fun c sumKind => ⟨later, sumKind⟩
  exact run.mono fun c holds => holds.2

theorem Grid.mul_ends (closed : Fraction.Closed allowed kind) {a b : Grid Fraction n}
    (left : a.Each kind) (right : b.Each kind) : Ends allowed (a.mul b) (Grid.Each kind) := by
  apply ofFnM_ends
  intro r c
  apply Fraction.dot_ends closed
  intro pair member
  obtain ⟨k, -, rfl⟩ := List.mem_map.mp member
  exact ⟨left r k, right k c⟩

end CurveForge
