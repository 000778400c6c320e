import Mathlib
import CurveForge.Proofs.Casteljau

/-!
# Subdivision of Bernstein curves

The edges of the triangle over the points of a Bernstein curve are the points of
its two halves. The proof replaces a row of points by the linear functional that
takes the powers of a variable to the points: blending neighbours becomes the
multiplication with `1 - t + t X`, and a curve becomes the power of such a factor.
-/

namespace CurveForge.Bernstein

open Polynomial Casteljau

def curve (n : Nat) (points : Nat → ℚ) (u : ℚ) : ℚ :=
  ∑ c ∈ Finset.range (n + 1), (n.choose c : ℚ) * u ^ c * (1 - u) ^ (n - c) * points c

def lerp (t a b : ℚ) : ℚ := a + (b - a) * t

/-- Takes every power of the variable to the point with that index. -/
noncomputable def functional (points : Nat → ℚ) : ℚ[X] →ₗ[ℚ] ℚ :=
  Polynomial.lsum fun i => points i • LinearMap.id

noncomputable def factor (t : ℚ) : ℚ[X] := C (1 - t) + C t * X

variable {points : Nat → ℚ}

theorem functional_X_pow (i : Nat) : functional points (X ^ i) = points i := by
  rw [functional, Polynomial.lsum_apply, ← Polynomial.monomial_one_right_eq_X_pow,
    Polynomial.sum_monomial_index _ _ (by simp)]
  simp

theorem functional_C_mul (a : ℚ) (p : ℚ[X]) :
    functional points (C a * p) = a * functional points p := by
  rw [← Polynomial.smul_eq_C_mul, map_smul, smul_eq_mul]

/-- Every entry of the triangle is a value of the functional. -/
theorem entry_eq_functional (t : ℚ) (k i : Nat) :
    entry (lerp t) points k i = functional points (X ^ i * factor t ^ k) := by
  induction k generalizing i with
  | zero => rw [entry, pow_zero, mul_one, functional_X_pow]
  | succ k ih =>
      have split : X ^ i * factor t ^ (k + 1) =
          C (1 - t) * (X ^ i * factor t ^ k) + C t * (X ^ (i + 1) * factor t ^ k) := by
        rw [pow_succ (factor t), pow_succ X, factor]
        ring
      rw [entry, ih, ih, split, map_add, functional_C_mul, functional_C_mul, lerp]
      ring

/-- If the points are values of mixed powers, the curve is the value of a power of the mixture. -/
theorem curve_functional (n : Nat) (p q : ℚ[X]) (u : ℚ) :
    curve n (fun c => functional points (p ^ c * q ^ (n - c))) u =
      functional points ((C u * p + C (1 - u) * q) ^ n) := by
  rw [add_pow, map_sum, curve]
  apply Finset.sum_congr rfl
  intro c _
  have term : (C u * p) ^ c * (C (1 - u) * q) ^ (n - c) * (n.choose c : ℚ[X]) =
      C ((n.choose c : ℚ) * u ^ c * (1 - u) ^ (n - c)) * (p ^ c * q ^ (n - c)) := by
    simp only [mul_pow, map_mul, map_pow, map_natCast]
    ring
  rw [term, functional_C_mul]

theorem curve_eq_functional (n : Nat) (u : ℚ) :
    curve n points u = functional points (factor u ^ n) := by
  have mixture : C u * X + C (1 - u) * 1 = factor u := by
    rw [factor]
    ring
  rw [← mixture, ← curve_functional]
  simp only [one_pow, mul_one, functional_X_pow]

/-- The first edge gives the part of the curve before the parameter. -/
theorem curve_firstEdge (n : Nat) (t u : ℚ) :
    curve n (fun k => entry (lerp t) points k 0) u = curve n points (u * t) := by
  have mixture : C u * factor t + C (1 - u) * 1 = factor (u * t) := by
    simp only [factor, map_sub, map_mul, map_one]
    ring
  rw [curve_eq_functional n (u * t), ← mixture, ← curve_functional]
  simp only [entry_eq_functional, pow_zero, one_mul, one_pow, mul_one]

/-- The last edge gives the part of the curve behind the parameter. -/
theorem curve_lastEdge (n : Nat) (t u : ℚ) :
    curve n (fun k => entry (lerp t) points (n - k) k) u = curve n points (t + u * (1 - t)) := by
  have mixture : C u * X + C (1 - u) * factor t = factor (t + u * (1 - t)) := by
    simp only [factor, map_sub, map_mul, map_add, map_one]
    ring
  rw [curve_eq_functional n (t + u * (1 - t)), ← mixture, ← curve_functional]
  simp only [entry_eq_functional]

end CurveForge.Bernstein
