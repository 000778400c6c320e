import Mathlib
import CurveForge.Matrix.Square
import CurveForge.Proofs.Fraction.Arithmetic

/-!
# The values of a matrix

A grid of fractions in lowest terms stands for a matrix over the rational
numbers, and the product of two grids for the product of their matrices.
-/

namespace CurveForge

open Checked (Ends Yields)

/-- What is still to be added completes the total to the sum of all products. -/
theorem Fraction.dot_yields (pairs : List (Fraction × Fraction))
    (reduced : ∀ pair ∈ pairs, pair.1.Reduced ∧ pair.2.Reduced) :
    Yields (Fraction.dot pairs) fun c => c.Reduced ∧
      c.value = (pairs.map fun pair => pair.1.value * pair.2.value).sum := by
  let invariant : List (Fraction × Fraction) → Fraction → Prop := fun rest total =>
    (∀ pair ∈ rest, pair.1.Reduced ∧ pair.2.Reduced) ∧ total.Reduced ∧
      total.value + (rest.map fun pair => pair.1.value * pair.2.value).sum =
        (pairs.map fun pair => pair.1.value * pair.2.value).sum
  have start : invariant pairs 0 := ⟨reduced, reduced_zero, by rw [value_zero, zero_add]⟩
  have run : Yields (Fraction.dot pairs) (invariant []) := by
    refine Checked.ends_foldlM ?_ start
    rintro pair rest total ⟨entries, totalReduced, complete⟩
    obtain ⟨⟨left, right⟩, later⟩ := List.forall_mem_cons.mp entries
    apply (left.mul_yields right).bind
    intro product holds
    refine (totalReduced.add_yields holds.1).mono fun c sum => ⟨later, sum.1, ?_⟩
    rw [sum.2, holds.2, ← complete, List.map_cons, List.sum_cons, add_assoc]
  refine run.mono fun c holds => ⟨holds.2.1, ?_⟩
  have complete := holds.2.2
  rwa [List.map_nil, List.sum_nil, add_zero] at complete

namespace Grid

variable {α β : Type} {n : Nat}

@[simp]
theorem entry_ofFn (f : Fin n → Fin n → α) (r c : Fin n) : (ofFn f).entry r c = f r c := by
  simp [ofFn, entry, row, Vector.get_eq_getElem]

@[simp]
theorem entry_map (f : α → β) (grid : Grid α n) (r c : Fin n) :
    (grid.map f).entry r c = f (grid.entry r c) :=
  entry_ofFn _ r c

theorem ofFnM_ends {allowed : Fault → Prop} {f : Fin n → Fin n → Checked α}
    {relation : Fin n → Fin n → α → Prop} (each : ∀ r c, Ends allowed (f r c) (relation r c)) :
    Ends allowed (ofFnM f) fun grid => ∀ r c, relation r c (grid.entry r c) :=
  (Checked.ends_ofFnM _ fun r => Checked.ends_ofFnM _ fun c => each r c).bind
    fun _ holds r c => holds r c

def Reduced (grid : Grid Fraction n) : Prop := ∀ r c, (grid.entry r c).Reduced

instance (grid : Grid Fraction n) : Decidable grid.Reduced := by
  unfold Reduced
  infer_instance

/-- Every entry stands for a number. -/
def Numeric (grid : Grid Fraction n) : Prop := ∀ r c, (grid.entry r c).IsNumber

instance (grid : Grid Fraction n) : Decidable grid.Numeric := by
  unfold Numeric
  infer_instance

/-- The matrix of the values of all entries. -/
def values (grid : Grid Fraction n) : Matrix (Fin n) (Fin n) ℚ :=
  Matrix.of fun r c => (grid.entry r c).value

@[simp]
theorem values_apply (grid : Grid Fraction n) (r c : Fin n) :
    grid.values r c = (grid.entry r c).value := rfl

theorem reduced_identity : (identity n).Reduced := by
  intro r c
  unfold identity
  rw [entry_ofFn]
  split
  · exact Fraction.reduced_one
  · exact Fraction.reduced_zero

theorem values_identity : (identity n).values = 1 := by
  ext r c
  by_cases diagonal : r = c
  · subst diagonal
    simp [identity, Fraction.value_one]
  · simp [identity, diagonal, Fraction.value_zero]

/-- The product of grids is the product of their matrices. -/
theorem mul_yields {a b : Grid Fraction n} (left : a.Reduced) (right : b.Reduced) :
    Yields (a.mul b) fun product => product.Reduced ∧ product.values = a.values * b.values := by
  have each (r c : Fin n) :
      Yields (Fraction.dot ((List.finRange n).map fun k => (a.entry r k, b.entry k c))) fun entry =>
        entry.Reduced ∧ entry.value = (a.values * b.values) r c := by
    refine (Fraction.dot_yields _ ?_).mono fun entry holds => ⟨holds.1, ?_⟩
    · intro pair member
      obtain ⟨k, -, rfl⟩ := List.mem_map.mp member
      exact ⟨left r k, right k c⟩
    · rw [holds.2, List.map_map, Matrix.mul_apply, Fin.sum_univ_def]
      rfl
  have entries : Yields (a.mul b) fun product => ∀ r c, (product.entry r c).Reduced ∧
      (product.entry r c).value = (a.values * b.values) r c := ofFnM_ends each
  refine entries.mono fun product holds => ⟨fun r c => (holds r c).1, ?_⟩
  ext r c
  exact (holds r c).2

end Grid

namespace SquareMatrix

def Reduced (m : SquareMatrix) : Prop := m.grid.Reduced

instance (m : SquareMatrix) : Decidable m.Reduced := by
  unfold Reduced
  infer_instance

def Numeric (m : SquareMatrix) : Prop := m.grid.Numeric

instance (m : SquareMatrix) : Decidable m.Numeric := by
  unfold Numeric
  infer_instance

theorem Reduced.numeric {m : SquareMatrix} (reduced : m.Reduced) : m.Numeric :=
  fun r c => (reduced r c).isNumber

def determinant (m : SquareMatrix) : ℚ := m.grid.values.det

end SquareMatrix

end CurveForge
