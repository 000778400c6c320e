import Mathlib
import CurveForge.Catalog.Standard
import CurveForge.Proofs.Bernstein
import CurveForge.Proofs.Formula.Rows

/-!
# Bernstein matrices

The Bernstein matrix of a degree turns the points of a Bernstein curve into the
coefficients of its powers. Up to degree five its entries are words, and those of
degree two and three are the matrices of the Bézier bases.
-/

namespace CurveForge

theorem Fraction.value_ofInt64 (n : Int64) : (ofInt64 n).value = n.toInt := by
  have den : (ofInt64 n).den.toInt = 1 := rfl
  rw [value, den, Int.cast_one, div_one]
  rfl

namespace Basis

def bernsteinWeight (n r c : Nat) : Int := (-1) ^ (r - c) * n.choose r * r.choose c

def bernsteinGrid (n : Nat) : Grid Fraction (n + 1) :=
  Grid.ofFn fun r c => .ofInt64 (Int64.ofInt (bernsteinWeight n r c))

def bernstein (n : Nat) : SquareMatrix := ⟨n + 1, bernsteinGrid n⟩

theorem quadraticBezier_eq_bernstein : quadraticBezier = bernstein 2 := by decide

theorem cubicBezier_eq_bernstein : cubicBezier = bernstein 3 := by decide

variable {n : Nat}

theorem entry_bernsteinGrid (n : Nat) (r c : Fin (n + 1)) :
    (bernsteinGrid n).entry r c = .ofInt64 (Int64.ofInt (bernsteinWeight n r c)) :=
  Grid.entry_ofFn _ r c

theorem reduced_bernstein (n : Nat) : (bernstein n).Reduced := by
  intro r c
  refine (congrArg Fraction.Reduced (entry_bernsteinGrid n r c)).mpr ?_
  exact Fraction.reduced_ofInt64 _

theorem bernsteinWeight_bound (small : n ≤ 5) :
    ∀ r ≤ n, ∀ c ≤ n, |bernsteinWeight n r c| < 2 ^ 63 := by
  interval_cases n <;> decide

theorem toInt_bernsteinWeight (small : n ≤ 5) (r c : Fin (n + 1)) :
    (Int64.ofInt (bernsteinWeight n r c)).toInt = bernsteinWeight n r c := by
  have bound := abs_lt.mp (bernsteinWeight_bound small r (Fin.is_le r) c (Fin.is_le c))
  exact Int64.toInt_ofInt_of_le (by omega) (by omega)

theorem negatable_bernstein (small : n ≤ 5) : (bernstein n).Negatable := by
  intro r c
  apply (congrArg Fraction.Negatable (entry_bernsteinGrid n r c)).mpr
  intro least
  have bound := abs_lt.mp (bernsteinWeight_bound small r (Fin.is_le r) c (Fin.is_le c))
  have word := (toInt_bernsteinWeight small r c).symm.trans (congrArg Int64.toInt least)
  rw [Int64.toInt_minValue] at word
  omega

theorem values_bernsteinGrid (small : n ≤ 5) (r c : Fin (n + 1)) :
    (bernsteinGrid n).values r c = bernsteinWeight n r c := by
  rw [Grid.values_apply, entry_bernsteinGrid, Fraction.value_ofInt64, toInt_bernsteinWeight small]

/-- The weights of a point in all powers add up to its Bernstein polynomial. -/
theorem sum_bernsteinWeight {c : Nat} (inside : c ≤ n) (u : ℚ) :
    ∑ r ∈ Finset.range (n + 1), (bernsteinWeight n r c : ℚ) * u ^ r =
      (n.choose c : ℚ) * u ^ c * (1 - u) ^ (n - c) := by
  have split : n + 1 = c + (n - c + 1) := by omega
  rw [split, Finset.sum_range_add]
  have low : ∑ r ∈ Finset.range c, (bernsteinWeight n r c : ℚ) * u ^ r = 0 := by
    apply Finset.sum_eq_zero
    intro r member
    rw [bernsteinWeight, Nat.choose_eq_zero_of_lt (Finset.mem_range.mp member)]
    simp
  have power : (1 - u) ^ (n - c) =
      ∑ j ∈ Finset.range (n - c + 1), (-u) ^ j * ((n - c).choose j : ℚ) := by
    rw [sub_eq_neg_add, add_pow]
    simp
  rw [low, zero_add, power, Finset.mul_sum]
  apply Finset.sum_congr rfl
  intro j _
  have product : ((n.choose (c + j) * (c + j).choose c : Nat) : ℚ) =
      (n.choose c * (n - c).choose j : Nat) := by
    rw [Nat.choose_mul (Nat.le_add_right c j), Nat.add_sub_cancel_left]
  push_cast at product
  rw [bernsteinWeight, Nat.add_sub_cancel_left, neg_pow u j, pow_add]
  push_cast
  linear_combination (-1) ^ j * u ^ c * u ^ j * product

end Basis

/-- The value of the polynomial with the given coefficients, that of the lowest power first. -/
def powerSum (coefficients : List ℚ) (u : ℚ) : ℚ :=
  (coefficients.mapIdx fun r a => a * u ^ r).sum

theorem powerSum_ofFn {n : Nat} (coefficients : Fin n → ℚ) (u : ℚ) :
    powerSum (List.ofFn coefficients) u = ∑ r, coefficients r * u ^ (r : Nat) := by
  have terms : (List.ofFn coefficients).mapIdx (fun r a => a * u ^ r) =
      List.ofFn fun r => coefficients r * u ^ (r : Nat) :=
    List.ext_getElem (by simp) fun i _ _ => by simp
  rw [powerSum, terms, List.sum_ofFn]

/-- The coefficients of the Bernstein matrix are those of the Bernstein curve. -/
theorem powerSum_applied_bernstein {n : Nat} (small : n ≤ 5) (points : Nat → ℚ) (u : ℚ) :
    powerSum ((Basis.bernstein n).applied ((List.range (n + 1)).map points)) u =
      Bernstein.curve n points u := by
  have vector : (List.range (n + 1)).map points = List.ofFn fun c : Fin (n + 1) => points c :=
    List.ext_getElem (by simp) fun i _ _ => by
      simp only [List.getElem_map, List.getElem_range, List.getElem_ofFn]
  rw [vector, Basis.bernstein, SquareMatrix.applied_ofFn, powerSum_ofFn]
  calc ∑ r, (Basis.bernsteinGrid n).values.mulVec (fun c => points c) r * u ^ (r : Nat)
      = ∑ r : Fin (n + 1), ∑ c : Fin (n + 1),
          (Basis.bernsteinWeight n r c : ℚ) * u ^ (r : Nat) * points c := by
        apply Finset.sum_congr rfl
        intro r _
        rw [Matrix.mulVec, dotProduct, Finset.sum_mul]
        apply Finset.sum_congr rfl
        intro c _
        rw [Basis.values_bernsteinGrid small]
        ring
    _ = ∑ c : Fin (n + 1), (n.choose c : ℚ) * u ^ (c : Nat) * (1 - u) ^ (n - c) * points c := by
        rw [Finset.sum_comm]
        apply Finset.sum_congr rfl
        intro c _
        rw [← Finset.sum_mul, ← Basis.sum_bernsteinWeight (Fin.is_le c),
          Finset.sum_range fun r => (Basis.bernsteinWeight n r c : ℚ) * u ^ r]
    _ = Bernstein.curve n points u := by
        rw [Bernstein.curve, Finset.sum_range]

end CurveForge
