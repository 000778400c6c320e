import Mathlib
import CurveForge.Proofs.Matrix.Closed
import CurveForge.Proofs.Matrix.Pivoting

/-!
# Elimination inverts

While columns are cleared, the partner times the original matrix is the matrix
that is being cleared, and the partner stays regular. When every column is a
column of the identity the partner is therefore the inverse, and a column without
a pivot shows that the determinant is zero. The entries only have to stand for
numbers; in lowest terms they stay so, and only results that are no words are missing.
-/

namespace CurveForge

open Checked (Yields Returns)
open Pivoting

variable {n : Nat}

namespace Augmented

def lefts (a : Augmented n) : Matrix (Fin n) (Fin n) ℚ :=
  Matrix.of fun r c => (Grid.entry a r c).left.value

def rights (a : Augmented n) : Matrix (Fin n) (Fin n) ℚ :=
  Matrix.of fun r c => (Grid.entry a r c).right.value

/-- Every cell and its partner stand for numbers. -/
def Numeric (a : Augmented n) : Prop := Grid.Each (Paired.Each Fraction.IsNumber) a

/-- What elimination of a matrix preserves. -/
structure Tracks (a : Augmented n) (m : Matrix (Fin n) (Fin n) ℚ) : Prop where
  numeric : a.Numeric
  product : a.rights * m = a.lefts
  regular : a.rights.det ≠ 0

theorem tracks_ofGrid {grid : Grid Fraction n} (numeric : grid.Numeric) :
    (ofGrid grid).Tracks grid.values := by
  have rights : (ofGrid grid).rights = 1 := by
    rw [← Grid.values_identity]
    ext r c
    simp [ofGrid, Augmented.rights]
  refine ⟨each_ofGrid Fraction.closed_isNumber numeric, ?_, ?_⟩
  · rw [rights, one_mul]
    ext r c
    simp [ofGrid, lefts]
  · rw [rights, Matrix.det_one]
    exact one_ne_zero

/-- The search for a pivot finds a row from the diagonal on with a cell other than zero. -/
theorem pivot?_eq_some {a : Augmented n} {col pivot : Fin n} (found : a.pivot? col = some pivot) :
    col ≤ pivot ∧ (Grid.entry a pivot col).left.isZero = false := by
  have test := List.find?_some found
  rwa [Bool.and_eq_true, decide_eq_true_iff, Bool.not_eq_true'] at test

theorem pivot?_eq_none {a : Augmented n} {col : Fin n} (numeric : a.Numeric)
    (missing : a.pivot? col = none) : ∀ r, col ≤ r → a.lefts r col = 0 := by
  intro r below
  have test := List.find?_eq_none.mp missing r (List.mem_finRange r)
  rw [Bool.and_eq_true, not_and, decide_eq_true_iff] at test
  have zero : (Grid.entry a r col).left.isZero = true := by simpa using test below
  exact (numeric r col).1.isZero_iff.mp zero

end Augmented

namespace Paired

def Holds (cell : Paired) (left right : ℚ) : Prop :=
  cell.Each Fraction.IsNumber ∧ cell.left.value = left ∧ cell.right.value = right

variable {factor : Fraction} {cell pivot : Paired}

theorem scale_returns (number : factor.IsNumber) (numeric : cell.Each Fraction.IsNumber) :
    Returns (cell.scale factor) fun scaled =>
      scaled.Holds (factor.value * cell.left.value) (factor.value * cell.right.value) := by
  apply (numeric.1.mul_returns number).bind
  intro left leftHolds
  apply (numeric.2.mul_returns number).bind
  intro right rightHolds
  exact ⟨⟨leftHolds.1.isNumber, rightHolds.1.isNumber⟩, by rw [leftHolds.2, mul_comm],
    by rw [rightHolds.2, mul_comm]⟩

theorem clear_returns (number : factor.IsNumber) (numeric : cell.Each Fraction.IsNumber)
    (pivotNumeric : pivot.Each Fraction.IsNumber) :
    Returns (cell.clear factor pivot) fun cleared =>
      cleared.Holds (cell.left.value - factor.value * pivot.left.value)
        (cell.right.value - factor.value * pivot.right.value) := by
  apply (number.mul_returns pivotNumeric.1).bind
  intro leftMultiple leftMultipleHolds
  apply (numeric.1.sub_returns leftMultipleHolds.1.isNumber).bind
  intro left leftHolds
  apply (number.mul_returns pivotNumeric.2).bind
  intro rightMultiple rightMultipleHolds
  apply (numeric.2.sub_returns rightMultipleHolds.1.isNumber).bind
  intro right rightHolds
  exact ⟨⟨leftHolds.1.isNumber, rightHolds.1.isNumber⟩, by rw [leftHolds.2, leftMultipleHolds.2],
    by rw [rightHolds.2, rightMultipleHolds.2]⟩

end Paired

namespace Augmented

/-- A row is cleared cell by cell; a factor of zero leaves it as it is, which is the same. -/
theorem clearedRow_returns {pivotRow row : Vector Paired n} {col : Fin n}
    (pivotNumeric : ∀ c, (pivotRow.get c).Each Fraction.IsNumber)
    (numeric : ∀ c, (row.get c).Each Fraction.IsNumber) :
    Returns (clearedRow pivotRow row col) fun cleared => ∀ c, (cleared.get c).Holds
      ((row.get c).left.value - (row.get col).left.value * (pivotRow.get c).left.value)
      ((row.get c).right.value - (row.get col).left.value * (pivotRow.get c).right.value) := by
  let holds : Fin n → Paired → Prop := fun c cell => cell.Holds
    ((row.get c).left.value - (row.get col).left.value * (pivotRow.get c).left.value)
    ((row.get c).right.value - (row.get col).left.value * (pivotRow.get c).right.value)
  refine clearedRow_cells holds ?_ fun c =>
    Paired.clear_returns (numeric col).1 (numeric c) (pivotNumeric c)
  intro zero c
  have value := (numeric col).1.isZero_iff.mp zero
  exact ⟨numeric c, by rw [value, zero_mul, sub_zero], by rw [value, zero_mul, sub_zero]⟩

/-- Clearing a column is a pivoting step on both matrices. -/
theorem clearColumn_returns {a : Augmented n} {pivot col : Fin n} {scale : Fraction}
    (numeric : a.Numeric) (number : scale.IsNumber) :
    Returns ((a.swapRows pivot col).clearColumn col scale) fun next =>
      next.Numeric ∧
      next.lefts = pivoted a.lefts pivot col scale.value
        (fun r => a.lefts (Equiv.swap pivot col r) col) ∧
      next.rights = pivoted a.rights pivot col scale.value
        (fun r => a.lefts (Equiv.swap pivot col r) col) := by
  let factor : Fin n → ℚ := fun r => a.lefts (Equiv.swap pivot col r) col
  let holds : Fin n → Fin n → Paired → Prop := fun r c cell =>
    cell.Holds (pivoted a.lefts pivot col scale.value factor r c)
      (pivoted a.rights pivot col scale.value factor r c)
  have swapped (r c : Fin n) : ((Grid.row (a.swapRows pivot col) r).get c) =
      Grid.entry a (Equiv.swap pivot col r) c := entry_swapRows a pivot col r c
  have cells : Returns ((a.swapRows pivot col).clearColumn col scale) fun next =>
      ∀ r c, holds r c (Grid.entry next r c) := by
    refine clearColumn_cells holds ?_ ?_
    · intro c
      rw [entry_swapRows, Equiv.swap_apply_right]
      simp only [holds, pivoted, Matrix.of_apply, if_true]
      exact Paired.scale_returns number (numeric pivot c)
    · intro pivotRow pivotHolds r other
      simp only [holds, pivoted, Matrix.of_apply, if_true] at pivotHolds
      simp only [holds, pivoted, Matrix.of_apply, if_neg other]
      refine (clearedRow_returns (fun c => (pivotHolds c).1) ?_).mono ?_
      · intro c
        rw [swapped]
        exact numeric _ c
      · intro row cleared c
        have cell := cleared c
        rw [(pivotHolds c).2.1, (pivotHolds c).2.2, swapped, swapped] at cell
        exact cell
  refine cells.mono fun next holds => ⟨fun r c => (holds r c).1, ?_, ?_⟩
  · ext r c
    exact (holds r c).2.1
  · ext r c
    exact (holds r c).2.2

/-- One step clears its column and keeps the cleared ones, or shows that there is no inverse. -/
theorem step?_returns {a : Augmented n} {m : Matrix (Fin n) (Fin n) ℚ} {col : Fin n}
    (tracks : a.Tracks m) (cleared : ∀ earlier < col, UnitColumn a.lefts earlier) :
    Returns (a.step? col) fun
      | none => m.det = 0
      | some next => next.Tracks m ∧ ∀ k ≤ col, UnitColumn next.lefts k := by
  unfold step?
  cases search : a.pivot? col with
  | none =>
      have singular : a.lefts.det = 0 :=
        det_eq_zero_of_no_pivot cleared (pivot?_eq_none tracks.numeric search)
      rw [← tracks.product, Matrix.det_mul] at singular
      exact (mul_eq_zero.mp singular).resolve_left tracks.regular
  | some pivot =>
      obtain ⟨below, occupied⟩ := pivot?_eq_some search
      have nonzero : a.lefts pivot col ≠ 0 :=
        Fraction.value_ne_zero (tracks.numeric pivot col).1 occupied
      have corner : Grid.entry (a.swapRows pivot col) col col = Grid.entry a pivot col := by
        rw [entry_swapRows, Equiv.swap_apply_right]
      simp only [corner]
      apply (Fraction.recip?_yields occupied).returns.bind
      intro inverse holds
      obtain ⟨scale, rfl, scaleReduced, scaleValue⟩ := holds
      apply (clearColumn_returns tracks.numeric scaleReduced.isNumber).bind
      intro next nextHolds
      obtain ⟨numeric, lefts, rights⟩ := nextHolds
      have scaleInverse : scale.value = (a.lefts pivot col)⁻¹ := scaleValue
      refine ⟨⟨numeric, ?_, ?_⟩, ?_⟩
      · rw [rights, lefts, pivoted_mul, tracks.product]
      · rw [rights]
        exact det_pivoted_ne_zero _ (by rw [scaleInverse]; exact inv_ne_zero nonzero) tracks.regular
      · intro k atMost
        rw [lefts]
        rcases atMost.eq_or_lt with same | before
        · subst same
          rw [scaleInverse]
          exact unitColumn_pivoted nonzero
        · exact (cleared k before).pivoted before below _ _

/-- Clearing the remaining columns turns the matrix into the identity, or shows that there is no
inverse. -/
theorem clearColumns?_returns {a : Augmented n} {m : Matrix (Fin n) (Fin n) ℚ}
    (finished remaining : List (Fin n)) (columns : finished ++ remaining = List.finRange n)
    (tracks : a.Tracks m) (cleared : ∀ k ∈ finished, UnitColumn a.lefts k) :
    Returns (a.clearColumns? remaining) fun
      | none => m.det = 0
      | some final => final.Tracks m ∧ final.lefts = 1 := by
  induction remaining generalizing a finished with
  | nil =>
      refine ⟨tracks, Matrix.ext fun r c => cleared c ?_ r⟩
      rw [← List.append_nil finished, columns]
      exact List.mem_finRange c
  | cons col rest ih =>
      have sorted : (finished ++ col :: rest).Pairwise (· < ·) := by
        rw [columns]
        exact List.pairwise_lt_finRange n
      have parts := List.pairwise_append.mp sorted
      have earlierFinished (k : Fin n) (before : k < col) : k ∈ finished := by
        have member : k ∈ finished ++ col :: rest := columns ▸ List.mem_finRange k
        rcases List.mem_append.mp member with done | later
        · exact done
        · rcases List.mem_cons.mp later with same | later
          · exact absurd same before.ne
          · exact absurd (List.rel_of_pairwise_cons parts.2.1 later) before.asymm
      have earlierCleared : ∀ earlier < col, UnitColumn a.lefts earlier := by
        intro k before
        exact cleared k (earlierFinished k before)
      apply (step?_returns tracks earlierCleared).bind
      intro next holds
      cases next with
      | none => exact holds
      | some next =>
          apply ih (finished ++ [col]) (by rw [List.append_assoc]; exact columns) holds.1
          intro k member
          apply holds.2
          rcases List.mem_append.mp member with done | last
          · exact (parts.2.2 k done col List.mem_cons_self).le
          · exact (List.mem_singleton.mp last).le

end Augmented

/-- What elimination answers inverts the matrix, and it answers nothing only for a singular one. -/
theorem Grid.inverse?_returns {grid : Grid Fraction n} (numeric : grid.Numeric) :
    Returns grid.inverse? fun
      | none => grid.values.det = 0
      | some inverse => inverse.values * grid.values = 1 := by
  apply (Augmented.clearColumns?_returns [] (List.finRange n) rfl
    (Augmented.tracks_ofGrid numeric) (by simp)).bind
  intro final holds
  cases final with
  | none => exact holds
  | some final =>
      have partner : (Augmented.partner final).values = final.rights := by
        ext r c
        simp [Augmented.partner, Augmented.rights]
      change (Augmented.partner final).values * grid.values = 1
      rw [partner, holds.1.product, holds.2]

/-- In lowest terms, only a result that is no word keeps elimination from answering. -/
theorem Grid.inverse?_yields {grid : Grid Fraction n} (reduced : grid.Reduced) :
    Yields grid.inverse? fun
      | none => grid.values.det = 0
      | some inverse => inverse.Reduced ∧ inverse.values * grid.values = 1 := by
  have answers := inverse?_returns fun r c => (reduced r c).isNumber
  refine ((inverse?_ends Fraction.closed_reduced reduced).and_returns answers).mono ?_
  intro result holds
  cases result with
  | none => exact holds.2
  | some inverse => exact ⟨holds.1 inverse rfl, holds.2⟩

end CurveForge
