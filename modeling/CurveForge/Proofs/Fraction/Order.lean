import CurveForge.Proofs.Fraction.Exactness

/-!
# The order of fractions

Fractions are compared by their cross products. A cross product of words is never too wide,
and where both denominators are positive the cross products are ordered as the numbers are.
In lowest terms this is a linear order: only the same two words compare as equal. Adding the
same fraction on both sides keeps the order, although each sum is brought to lowest terms
with a divisor of its own.
-/

namespace CurveForge

namespace Fraction

variable {a b c : Fraction}

/-- Compares by cross products that have to fit as wide values. -/
def compareWide (a b : Fraction) : Checked Ordering := do
  let left ← Wide.mul a.num.toInt b.den.toInt
  let right ← Wide.mul b.num.toInt a.den.toInt
  return Ord.compare left right

/-- Both cross products of words fit, in lowest terms or not. -/
theorem compareWide_eq (a b : Fraction) : a.compareWide b = .ok (a.compare b) := by
  unfold compareWide
  rw [Wide.mul_words, Wide.mul_words]
  rfl

/-- A cross product is the number, scaled by both denominators. -/
theorem crossProduct_eq (nonzero : a.den.toInt ≠ 0) (d : Int64) :
    ((a.num.toInt * d.toInt : Int) : ℚ) = a.value * (a.den.toInt * d.toInt) := by
  rw [value, Int.cast_mul, ← mul_assoc, div_mul_cancel₀ _ (Int.cast_ne_zero.mpr nonzero)]

/-- The scale of both cross products is positive, so it does not turn the order around. -/
theorem compare_eq_cmp_of_pos (left : 0 < a.den.toInt) (right : 0 < b.den.toInt) :
    a.compare b = cmp a.value b.value := by
  have scale : (0 : ℚ) < a.den.toInt * b.den.toInt :=
    mul_pos (Int.cast_pos.mpr left) (Int.cast_pos.mpr right)
  calc a.compare b
      = cmp (a.num.toInt * b.den.toInt) (b.num.toInt * a.den.toInt) := (cmp_eq_compare _ _).symm
    _ = cmp ((a.num.toInt * b.den.toInt : Int) : ℚ) ((b.num.toInt * a.den.toInt : Int) : ℚ) :=
        (Int.cast_strictMono.cmp_map_eq _ _).symm
    _ = cmp (a.value * (a.den.toInt * b.den.toInt)) (b.value * (a.den.toInt * b.den.toInt)) := by
        rw [crossProduct_eq left.ne', crossProduct_eq right.ne', mul_comm (b.den.toInt : ℚ)]
    _ = cmp a.value b.value := cmp_mul_pos_right scale _ _

namespace Reduced

theorem compare_eq_cmp (left : a.Reduced) (right : b.Reduced) :
    a.compare b = cmp a.value b.value :=
  compare_eq_cmp_of_pos left.den_pos right.den_pos

theorem compare_eq_eq_iff (left : a.Reduced) (right : b.Reduced) :
    a.compare b = .eq ↔ a = b := by
  rw [left.compare_eq_cmp right, cmp_eq_eq_iff]
  exact ⟨left.eq_of_value_eq right, congrArg value⟩

theorem compare_swap (left : a.Reduced) (right : b.Reduced) :
    b.compare a = (a.compare b).swap := by
  rw [left.compare_eq_cmp right, right.compare_eq_cmp left, cmp_swap]

theorem isLE_compare_iff (left : a.Reduced) (right : b.Reduced) :
    (a.compare b).isLE ↔ a.value ≤ b.value := by
  rw [left.compare_eq_cmp right, Ordering.isLE_iff_ne_gt]
  exact (cmp_compares a.value b.value).ne_gt

/-- Smaller, equal and greater are each handed on. -/
theorem compare_trans (left : a.Reduced) (middle : b.Reduced) (right : c.Reduced)
    {answer : Ordering} (first : a.compare b = answer) (second : b.compare c = answer) :
    a.compare c = answer := by
  rw [left.compare_eq_cmp middle] at first
  rw [middle.compare_eq_cmp right] at second
  rw [left.compare_eq_cmp right]
  cases answer with
  | lt =>
      rw [cmp_eq_lt_iff] at first second ⊢
      exact first.trans second
  | eq =>
      rw [cmp_eq_eq_iff] at first second ⊢
      exact first.trans second
  | gt =>
      rw [cmp_eq_gt_iff] at first second ⊢
      exact second.trans first

/-- Sums are the exact sums, so the order is that of the numbers moved by the same distance. -/
theorem compare_sums (left : a.Reduced) (middle : b.Reduced) (right : c.Reduced)
    {leftSum middleSum : Fraction} (leftResult : a.add c = .ok leftSum)
    (middleResult : b.add c = .ok middleSum) : leftSum.compare middleSum = a.compare b := by
  obtain ⟨leftReduced, leftValue⟩ := (left.add_yields right).of_eq_ok leftResult
  obtain ⟨middleReduced, middleValue⟩ := (middle.add_yields right).of_eq_ok middleResult
  rw [leftReduced.compare_eq_cmp middleReduced, left.compare_eq_cmp middle, leftValue, middleValue,
    cmp_add_right]

end Reduced

/-- Fractions in lowest terms are compared as the numbers they stand for, without a fault on the
way. The comparison is a linear order of which the equality is that of the words, and sums that are
words keep it. -/
theorem compare_orders_values (left : a.Reduced) (middle : b.Reduced) (right : c.Reduced) :
    a.compareWide b = .ok (a.compare b) ∧
    a.compare b = cmp a.value b.value ∧
    (a.compare b = .eq ↔ a = b) ∧
    b.compare a = (a.compare b).swap ∧
    ((a.compare b).isLE → (b.compare a).isLE → a = b) ∧
    ((a.compare b).isLE → (b.compare c).isLE → (a.compare c).isLE) ∧
    (∀ answer, a.compare b = answer → b.compare c = answer → a.compare c = answer) ∧
    ∀ leftSum middleSum, a.add c = .ok leftSum → b.add c = .ok middleSum →
      a.compare b = leftSum.compare middleSum := by
  refine ⟨compareWide_eq a b, left.compare_eq_cmp middle, left.compare_eq_eq_iff middle,
    left.compare_swap middle, ?antisymmetric, ?transitive,
    fun _ => left.compare_trans middle right, ?sums⟩
  case antisymmetric =>
    rw [left.isLE_compare_iff middle, middle.isLE_compare_iff left]
    exact fun below above => left.eq_of_value_eq middle (le_antisymm below above)
  case transitive =>
    rw [left.isLE_compare_iff middle, middle.isLE_compare_iff right, left.isLE_compare_iff right]
    exact le_trans
  case sums =>
    intro leftSum middleSum leftResult middleResult
    exact (left.compare_sums middle right leftResult middleResult).symm

/-- The least word over the greatest lies below minus one by the smallest positive fraction. Adding
that to both keeps them apart, although one sum is reduced to a whole number and the other is in
lowest terms as it is. -/
theorem compare_orders_values_limits :
    leastOverGreatest.Reduced ∧ (ofInt64 (-1)).Reduced ∧ smallestPositive.Reduced ∧
      leastOverGreatest.add smallestPositive = .ok (ofInt64 (-1)) ∧
      (ofInt64 (-1)).add smallestPositive = .ok ⟨Int64.minValue + 2, Int64.maxValue⟩ ∧
      leastOverGreatest.compareWide (ofInt64 (-1)) = .ok .lt ∧
      (ofInt64 (-1)).compare leastOverGreatest = .gt ∧
      leastOverGreatest.compare smallestPositive = .lt ∧
      (ofInt64 (-1)).compare ⟨Int64.minValue + 2, Int64.maxValue⟩ = .lt := by
  have least : leastOverGreatest.Reduced := by decide +kernel
  have small : smallestPositive.Reduced := by decide +kernel
  have leastSum : leastOverGreatest.add smallestPositive = .ok (ofInt64 (-1)) := by decide +kernel
  have otherSum : (ofInt64 (-1)).add smallestPositive = .ok ⟨Int64.minValue + 2, Int64.maxValue⟩ := by
    decide +kernel
  have below : leastOverGreatest.compare (ofInt64 (-1)) = .lt := by decide +kernel
  have above : (ofInt64 (-1)).compare smallestPositive = .lt := by decide +kernel
  obtain ⟨wide, -, -, swapped, -, -, transitive, sums⟩ :=
    compare_orders_values least (reduced_ofInt64 (-1)) small
  refine ⟨least, reduced_ofInt64 _, small, leastSum, otherSum, ?_, ?_, ?_, ?_⟩
  · rw [wide, below]
  · rw [swapped, below]
    rfl
  · exact transitive .lt below above
  · rw [← sums _ _ leastSum otherSum, below]

end Fraction

end CurveForge
