import Mathlib
import CurveForge.Proofs.Fraction.Value

/-!
# Arithmetic of fractions

Sum, product, quotient and inverse of fractions in lowest terms are the narrowed
results of the same operation on rational numbers. Negation and difference stop
in addition at the least word, which has no negation.

Other fractions that stand for numbers may be too wide on the way, but an operation
that ends in a fraction is exact for them too.
-/

namespace CurveForge.Fraction

open Checked (Yields Returns)

variable {a b c : Fraction}

theorem quotient_add (left : a.IsNumber) (right : b.IsNumber) :
    ((a.num.toInt * b.den.toInt + b.num.toInt * a.den.toInt : Int) : ℚ) /
      ((a.den.toInt * b.den.toInt : Int) : ℚ) = a.value + b.value := by
  have leftNonzero : (a.den.toInt : ℚ) ≠ 0 := Int.cast_ne_zero.mpr left.den_toInt_ne_zero
  have rightNonzero : (b.den.toInt : ℚ) ≠ 0 := Int.cast_ne_zero.mpr right.den_toInt_ne_zero
  push_cast
  rw [value, value, div_add_div _ _ leftNonzero rightNonzero]
  ring

theorem quotient_mul (a b : Fraction) :
    ((a.num.toInt * b.num.toInt : Int) : ℚ) / ((a.den.toInt * b.den.toInt : Int) : ℚ) =
      a.value * b.value := by
  push_cast
  exact (div_mul_div_comm _ _ _ _).symm

theorem quotient_div (a b : Fraction) :
    ((a.num.toInt * b.den.toInt : Int) : ℚ) / ((a.den.toInt * b.num.toInt : Int) : ℚ) =
      a.value / b.value := by
  push_cast
  exact (div_div_div_eq _ _ _ _).symm

theorem num_toInt_ne_zero (nonzero : a.isZero = false) : a.num.toInt ≠ 0 :=
  fun zero => beq_eq_false_iff_ne.mp nonzero (Int64.toInt_inj.mp zero)

/-- A quotient of words is too small to fail before it is narrowed. -/
theorem ofQuotient_eq (n : Int64) {d : Int64} (nonzero : d ≠ 0) :
    ofQuotient n d = ofRat (n.toInt / d.toInt) := by
  have divisor : d.toInt ≠ 0 := fun zero => nonzero (Int64.toInt_inj.mp zero)
  unfold ofQuotient
  rw [if_neg nonzero, ofWide_eq_ofRat divisor (Wide.abs_word_lt _) (Wide.abs_word_lt _)]

/-- Only the inverse itself can be no word, in lowest terms or not. -/
theorem recip?_eq_ofRat (nonzero : a.isZero = false) : a.recip? = some <$> ofRat a.value⁻¹ := by
  have exact : ((a.den.toInt : Int) : ℚ) / ((a.num.toInt : Int) : ℚ) = a.value⁻¹ :=
    (inv_div _ _).symm
  unfold recip?
  rw [nonzero, ofQuotient_eq a.den (beq_eq_false_iff_ne.mp nonzero), exact]
  rfl

theorem recip?_yields (nonzero : a.isZero = false) :
    Yields a.recip? fun inverse => ∃ c, inverse = some c ∧ c.Reduced ∧ c.value = a.value⁻¹ := by
  rw [recip?_eq_ofRat nonzero]
  exact (ofRat_yields _).map fun c holds => ⟨c, rfl, holds⟩

theorem value_neg_one : value ⟨-1, 1⟩ = -1 := by
  have num : (-1 : Int64).toInt = -1 := rfl
  have den : (1 : Int64).toInt = 1 := rfl
  simp [value, num, den]

/-- All numerators but the least word can be negated. -/
def Negatable (a : Fraction) : Prop := a.num ≠ Int64.minValue

instance (a : Fraction) : Decidable a.Negatable := by
  unfold Negatable
  infer_instance

theorem toInt_neg_of_ne {n : Int64} (notLeast : n ≠ Int64.minValue) : (-n).toInt = -n.toInt := by
  have lower := n.le_toInt
  have upper := n.toInt_lt
  have other : n.toInt ≠ -2 ^ 63 := fun least =>
    notLeast (Int64.toInt_inj.mp (least.trans Int64.toInt_minValue.symm))
  rw [Int64.toInt_neg]
  exact Int.bmod_eq_of_le (by omega) (by omega)

theorem abs_of_least (least : ¬a.Negatable) : a.abs = .error .negateOverflow := by
  have word : a.num = Int64.minValue := not_not.mp least
  have negative : a.num < 0 := by
    rw [word]
    decide
  unfold abs neg negWord
  rw [if_pos negative, if_pos word]
  rfl

namespace Reduced

theorem num_neg_iff (reduced : a.Reduced) : a.num < 0 ↔ a.value < 0 := by
  rw [← Rat.num_neg, reduced.num_value, Int64.lt_iff_toInt_lt]
  rfl

/-- Sums never leave the wide range, so only the exact result decides. -/
theorem add_eq (left : a.Reduced) (right : b.Reduced) : a.add b = ofRat (a.value + b.value) := by
  have leftBound := abs_le.mp (Wide.abs_mul_positive_lt a.num b.den right.den_pos)
  have rightBound := abs_le.mp (Wide.abs_mul_positive_lt b.num a.den left.den_pos)
  have denBound := Wide.abs_mul_words_le a.den b.den
  have numBound : |a.num.toInt * b.den.toInt + b.num.toInt * a.den.toInt| < Wide.limit := by
    rw [abs_lt]
    constructor <;> simp only [Wide.limit] <;> omega
  have sum : Wide.add (a.num.toInt * b.den.toInt) (b.num.toInt * a.den.toInt) =
      .ok (a.num.toInt * b.den.toInt + b.num.toInt * a.den.toInt) :=
    Wide.check_of_fits (Wide.fits_of_abs_lt numBound)
  have nonzero : a.den.toInt * b.den.toInt ≠ 0 :=
    mul_ne_zero left.den_pos.ne' right.den_pos.ne'
  unfold add
  rw [Wide.mul_words, Wide.mul_words, Wide.mul_words]
  simp only [bind, Except.bind]
  rw [sum]
  simp only
  rw [ofWide_eq_ofRat nonzero numBound (lt_of_le_of_lt denBound (by norm_num [Wide.limit])),
    quotient_add left.isNumber right.isNumber]

theorem mul_eq (left : a.Reduced) (right : b.Reduced) : a.mul b = ofRat (a.value * b.value) := by
  have numBound := Wide.abs_mul_words_le a.num b.num
  have denBound := Wide.abs_mul_words_le a.den b.den
  have nonzero : a.den.toInt * b.den.toInt ≠ 0 :=
    mul_ne_zero left.den_pos.ne' right.den_pos.ne'
  unfold mul
  rw [Wide.mul_words, Wide.mul_words]
  simp only [bind, Except.bind]
  rw [ofWide_eq_ofRat nonzero (lt_of_le_of_lt numBound (by norm_num [Wide.limit]))
    (lt_of_le_of_lt denBound (by norm_num [Wide.limit])), quotient_mul]

theorem div_eq (left : a.Reduced) (right : b.Reduced) (divisor : b.value ≠ 0) :
    a.div b = ofRat (a.value / b.value) := by
  have notZero : b.isZero = false := by
    rw [Bool.eq_false_iff]
    exact fun zero => divisor (right.isZero_iff.mp zero)
  have numNonzero : b.num.toInt ≠ 0 := by
    intro zero
    refine divisor ?_
    simp [value, zero]
  have numBound := Wide.abs_mul_words_le a.num b.den
  have denBound := Wide.abs_mul_words_le a.den b.num
  have nonzero : a.den.toInt * b.num.toInt ≠ 0 := mul_ne_zero left.den_pos.ne' numNonzero
  unfold div
  rw [notZero, Wide.mul_words, Wide.mul_words]
  simp only [bind, Except.bind, Bool.false_eq_true, if_false]
  rw [ofWide_eq_ofRat nonzero (lt_of_le_of_lt numBound (by norm_num [Wide.limit]))
    (lt_of_le_of_lt denBound (by norm_num [Wide.limit])), quotient_div]

/-- The inverse of a number that is not zero exists, unless it has no words. -/
theorem recip?_eq (reduced : a.Reduced) (nonzero : a.value ≠ 0) :
    a.recip? = some <$> ofRat a.value⁻¹ := by
  apply recip?_eq_ofRat
  rw [Bool.eq_false_iff]
  exact fun zero => nonzero (reduced.isZero_iff.mp zero)

/-- Negation is exact except at the least word. -/
theorem neg_eq (reduced : a.Reduced) (negatable : a.Negatable) :
    a.neg = ofRat (-a.value) := by
  have word := toInt_neg_of_ne negatable
  unfold neg negWord
  rw [if_neg negatable]
  have opposite : Reduced ⟨-a.num, a.den⟩ :=
    ⟨reduced.den_pos, by simpa only [word, Int.natAbs_neg] using reduced.coprime⟩
  refine (ofRat_eq_ok_iff.mpr ⟨opposite, ?_⟩).symm
  simp only [value, word, Int.cast_neg, neg_div]

theorem add_yields (left : a.Reduced) (right : b.Reduced) :
    Yields (a.add b) fun c => c.Reduced ∧ c.value = a.value + b.value := by
  rw [left.add_eq right]
  exact ofRat_yields _

theorem mul_yields (left : a.Reduced) (right : b.Reduced) :
    Yields (a.mul b) fun c => c.Reduced ∧ c.value = a.value * b.value := by
  rw [left.mul_eq right]
  exact ofRat_yields _

theorem neg_yields (reduced : a.Reduced) :
    Yields a.neg fun c => c.Reduced ∧ c.value = -a.value := by
  by_cases least : a.num = Int64.minValue
  · unfold neg negWord
    rw [if_pos least]
    exact .inr (.inr rfl)
  · rw [reduced.neg_eq least]
    exact ofRat_yields _

theorem sub_yields (left : a.Reduced) (right : b.Reduced) :
    Yields (a.sub b) fun c => c.Reduced ∧ c.value = a.value - b.value := by
  apply right.neg_yields.bind
  intro opposite holds
  refine (left.add_yields holds.1).mono fun c sum => ⟨sum.1, ?_⟩
  rw [sum.2, holds.2, sub_eq_add_neg]

/-- The magnitude is exact except at the least word. -/
theorem abs_ok (reduced : a.Reduced) (negatable : a.Negatable) :
    ∃ magnitude, a.abs = .ok magnitude ∧ magnitude.Reduced ∧ magnitude.value = |a.value| := by
  by_cases negative : a.num < 0
  · have result : a.neg = .ok ⟨-a.num, a.den⟩ := by
      unfold neg negWord
      rw [if_neg negatable]
      rfl
    refine ⟨_, (if_pos negative).trans result, ?_⟩
    rw [abs_of_neg (reduced.num_neg_iff.mp negative)]
    exact ofRat_eq_ok_iff.mp ((reduced.neg_eq negatable).symm.trans result)
  · have positive : 0 ≤ a.value := not_lt.mp fun below => negative (reduced.num_neg_iff.mpr below)
    exact ⟨a, if_neg negative, reduced, (abs_of_nonneg positive).symm⟩

/-- A quotient that has words is computed. -/
theorem div_ok (left : a.Reduced) (right : b.Reduced) (result : c.Reduced)
    (divisor : b.value ≠ 0) (quotient : a.value / b.value = c.value) : a.div b = .ok c := by
  rw [left.div_eq right divisor, quotient, ofRat_value result]

end Reduced

theorem value_ne_zero (number : a.IsNumber) (nonzero : a.isZero = false) : a.value ≠ 0 :=
  div_ne_zero (Int.cast_ne_zero.mpr (num_toInt_ne_zero nonzero))
    (Int.cast_ne_zero.mpr number.den_toInt_ne_zero)

theorem isZero_of_value_ne_zero (nonzero : a.value ≠ 0) : a.isZero = false := by
  rw [Bool.eq_false_iff]
  intro zero
  refine nonzero ?_
  rw [value, show a.num.toInt = 0 from congrArg Int64.toInt (beq_iff_eq.mp zero)]
  simp

theorem IsNumber.isZero_iff (number : a.IsNumber) : a.isZero = true ↔ a.value = 0 := by
  constructor
  · intro zero
    by_contra nonzero
    rw [isZero_of_value_ne_zero nonzero] at zero
    cases zero
  · intro zero
    by_contra nonzero
    exact value_ne_zero number (Bool.eq_false_iff.mpr nonzero) zero

theorem toInt_negWord {n m : Int64} (computed : negWord n = .ok m) : m.toInt = -n.toInt := by
  unfold negWord at computed
  split at computed
  next => cases computed
  next notLeast =>
    cases computed
    exact toInt_neg_of_ne notLeast

/-- Negation leaves the denominator as it is. -/
theorem neg_returns (a : Fraction) : Returns a.neg fun c => c.den = a.den ∧ c.value = -a.value := by
  unfold neg
  have word : Returns (negWord a.num) fun n => n.toInt = -a.num.toInt :=
    Checked.returns_iff.mpr fun n computed => toInt_negWord computed
  apply word.bind
  intro n opposite
  refine ⟨rfl, ?_⟩
  simp only [value, opposite, Int.cast_neg, neg_div]

/-- The magnitude is the fraction itself or its negation. -/
theorem abs_returns (a : Fraction) :
    Returns a.abs fun c => c.den = a.den ∧ (c.value = a.value ∨ c.value = -a.value) := by
  unfold abs
  split
  · exact (neg_returns a).mono fun c holds => ⟨holds.1, .inr holds.2⟩
  · exact ⟨rfl, .inl rfl⟩

namespace IsNumber

theorem add_returns (left : a.IsNumber) (right : b.IsNumber) :
    Returns (a.add b) fun c => c.Reduced ∧ c.value = a.value + b.value := by
  have nonzero : a.den.toInt * b.den.toInt ≠ 0 :=
    mul_ne_zero left.den_toInt_ne_zero right.den_toInt_ne_zero
  unfold add
  rw [Wide.mul_words, Wide.mul_words, Wide.mul_words]
  apply (Wide.add_returns _ _).bind
  rintro n ⟨rfl, fits⟩
  refine (ofWide_returns nonzero fits (Wide.fits_mul_words _ _)).mono fun c holds => ⟨holds.1, ?_⟩
  rw [holds.2, quotient_add left right]

theorem mul_returns (left : a.IsNumber) (right : b.IsNumber) :
    Returns (a.mul b) fun c => c.Reduced ∧ c.value = a.value * b.value := by
  have nonzero : a.den.toInt * b.den.toInt ≠ 0 :=
    mul_ne_zero left.den_toInt_ne_zero right.den_toInt_ne_zero
  unfold mul
  rw [Wide.mul_words, Wide.mul_words]
  refine (ofWide_returns nonzero (Wide.fits_mul_words _ _) (Wide.fits_mul_words _ _)).mono
    fun c holds => ⟨holds.1, ?_⟩
  rw [holds.2, quotient_mul]

theorem sub_returns (left : a.IsNumber) (right : b.IsNumber) :
    Returns (a.sub b) fun c => c.Reduced ∧ c.value = a.value - b.value := by
  apply (neg_returns b).bind
  intro opposite holds
  have number : opposite.IsNumber := fun zero => right (holds.1.symm.trans zero)
  refine (left.add_returns number).mono fun c sum => ⟨sum.1, ?_⟩
  rw [sum.2, holds.2, sub_eq_add_neg]

theorem div_returns (left : a.IsNumber) (right : b.isZero = false) :
    Returns (a.div b) fun c => c.Reduced ∧ c.value = a.value / b.value := by
  have nonzero : a.den.toInt * b.num.toInt ≠ 0 :=
    mul_ne_zero left.den_toInt_ne_zero (num_toInt_ne_zero right)
  unfold div
  rw [right, Wide.mul_words, Wide.mul_words]
  refine (ofWide_returns nonzero (Wide.fits_mul_words _ _) (Wide.fits_mul_words _ _)).mono
    fun c holds => ⟨holds.1, ?_⟩
  rw [holds.2, quotient_div]

end IsNumber

/-- An inverse is always in lowest terms. -/
theorem recip?_keeps (a : Fraction) : Yields a.recip? fun inverse => ∀ c ∈ inverse, c.Reduced := by
  cases zero : a.isZero with
  | true =>
      unfold recip?
      rw [zero]
      exact fun c absent => nomatch absent
  | false =>
      apply (recip?_yields zero).mono
      rintro _ ⟨c, rfl, reduced, -⟩ _ ⟨⟩
      exact reduced

theorem recip?_returns (a : Fraction) : Returns a.recip? fun inverse => ∀ c ∈ inverse, c.Reduced :=
  (recip?_keeps a).returns

end CurveForge.Fraction
