import Mathlib
import CurveForge.Fraction.Basic
import CurveForge.Proofs.Checked

/-!
# The value of a fraction

A fraction in lowest terms with a positive denominator stands for exactly one
rational number. Every operation on such fractions is the operation on rational
numbers followed by one narrowing of numerator and denominator: nothing else on
the way can fail, so a fault tells that the exact result has no words.
-/

namespace CurveForge

namespace Wide

theorem check_of_fits {fault : Fault} {x : Int} (fits : Fits x) : check fault x = .ok x :=
  if_pos fits

theorem fits_of_abs_lt {x : Int} (bound : |x| < limit) : Fits x :=
  ⟨(abs_lt.mp bound).1.le, (abs_lt.mp bound).2⟩

theorem abs_word_lt (n : Int64) : |n.toInt| < limit := by
  have lower := n.le_toInt
  have upper := n.toInt_lt
  rw [abs_lt]
  constructor <;> simp only [limit] <;> omega

/-- The product of two words is wide enough by one bit. -/
theorem abs_mul_words_le (a b : Int64) : |a.toInt * b.toInt| ≤ 2 ^ 126 := by
  have left : |a.toInt| ≤ 2 ^ 63 := abs_le.mpr ⟨a.le_toInt, a.toInt_lt.le⟩
  have right : |b.toInt| ≤ 2 ^ 63 := abs_le.mpr ⟨b.le_toInt, b.toInt_lt.le⟩
  calc |a.toInt * b.toInt| = |a.toInt| * |b.toInt| := abs_mul _ _
    _ ≤ 2 ^ 63 * 2 ^ 63 := mul_le_mul left right (abs_nonneg _) (by norm_num)
    _ = 2 ^ 126 := by norm_num

theorem fits_mul_words (a b : Int64) : Fits (a.toInt * b.toInt) :=
  fits_of_abs_lt (lt_of_le_of_lt (abs_mul_words_le a b) (by norm_num [limit]))

theorem mul_words (a b : Int64) : mul a.toInt b.toInt = .ok (a.toInt * b.toInt) :=
  check_of_fits (fits_mul_words a b)

/-- A word times a positive word stays below the product of the two limits. -/
theorem abs_mul_positive_lt (a b : Int64) (positive : 0 < b.toInt) :
    |a.toInt * b.toInt| ≤ 2 ^ 126 - 2 ^ 63 := by
  have left : |a.toInt| ≤ 2 ^ 63 := abs_le.mpr ⟨a.le_toInt, a.toInt_lt.le⟩
  have right : |b.toInt| ≤ 2 ^ 63 - 1 := by
    rw [abs_of_pos positive]
    have := b.toInt_lt
    omega
  calc |a.toInt * b.toInt| = |a.toInt| * |b.toInt| := abs_mul _ _
    _ ≤ 2 ^ 63 * (2 ^ 63 - 1) := mul_le_mul left right (abs_nonneg _) (by norm_num)
    _ = 2 ^ 126 - 2 ^ 63 := by norm_num

theorem neg_of_abs_lt {x : Int} (bound : |x| < limit) : neg x = .ok (-x) := by
  have range := abs_lt.mp bound
  exact check_of_fits ⟨by omega, by omega⟩

theorem magnitude_of_abs_lt {x : Int} (bound : |x| < limit) : magnitude x = .ok x.natAbs := by
  unfold magnitude
  by_cases negative : x < 0
  · rw [if_pos negative, neg_of_abs_lt bound]
    have same : (-x).toNat = x.natAbs := by omega
    exact congrArg Except.ok same
  · rw [if_neg negative]
    have same : x.toNat = x.natAbs := by omega
    exact congrArg Except.ok same

/-- Only the least value has no magnitude. -/
theorem magnitude_returns {x : Int} (fits : Fits x) :
    Checked.Returns (magnitude x) fun _ => |x| < limit := by
  refine Checked.returns_iff.mpr fun m computed => ?_
  obtain ⟨lower, upper⟩ := fits
  refine abs_lt.mpr ⟨lt_of_le_of_ne lower ?_, upper⟩
  rintro rfl
  cases computed

theorem add_returns (a b : Int) : Checked.Returns (add a b) fun c => c = a + b ∧ Fits c := by
  unfold add check
  split
  next fits => exact ⟨rfl, fits⟩
  next => trivial

end Wide

namespace Fraction

/-- Lowest terms with a positive denominator. -/
structure Reduced (a : Fraction) : Prop where
  den_pos : 0 < a.den.toInt
  coprime : Nat.Coprime a.num.toInt.natAbs a.den.toInt.natAbs

instance (a : Fraction) : Decidable a.Reduced :=
  decidable_of_iff (0 < a.den.toInt ∧ Nat.Coprime a.num.toInt.natAbs a.den.toInt.natAbs)
    ⟨fun parts => ⟨parts.1, parts.2⟩, fun reduced => ⟨reduced.den_pos, reduced.coprime⟩⟩

/-- The rational number that a fraction stands for. -/
def value (a : Fraction) : ℚ := a.num.toInt / a.den.toInt

theorem value_zero : value 0 = 0 := by
  have parts : (0 : Fraction).num.toInt = 0 := rfl
  simp [value, parts]

theorem value_one : value 1 = 1 := by
  have num : (1 : Fraction).num.toInt = 1 := rfl
  have den : (1 : Fraction).den.toInt = 1 := rfl
  simp [value, num, den]

theorem reduced_zero : Reduced 0 := by decide

theorem reduced_one : Reduced 1 := by decide

theorem reduced_ofInt64 (n : Int64) : (ofInt64 n).Reduced :=
  ⟨(by decide : 0 < (1 : Int64).toInt), Nat.coprime_one_right _⟩

namespace Reduced

variable {a b : Fraction}

theorem num_value (reduced : a.Reduced) : a.value.num = a.num.toInt :=
  Rat.num_div_eq_of_coprime reduced.den_pos reduced.coprime

theorem den_value (reduced : a.Reduced) : (a.value.den : Int) = a.den.toInt :=
  Rat.den_div_eq_of_coprime reduced.den_pos reduced.coprime

/-- In lowest terms a number is written in one way only. -/
theorem eq_of_value_eq (left : a.Reduced) (right : b.Reduced) (same : a.value = b.value) :
    a = b := by
  have nums : a.num = b.num := by
    apply Int64.toInt_inj.mp
    rw [← left.num_value, ← right.num_value, same]
  have dens : a.den = b.den := by
    apply Int64.toInt_inj.mp
    rw [← left.den_value, ← right.den_value, same]
  cases a
  cases b
  cases nums
  cases dens
  rfl

theorem value_eq_zero_iff (reduced : a.Reduced) : a.value = 0 ↔ a.num = 0 := by
  rw [← Rat.num_eq_zero, reduced.num_value]
  exact (Int64.toInt_inj (y := 0))

theorem isZero_iff (reduced : a.Reduced) : a.isZero = true ↔ a.value = 0 := by
  rw [reduced.value_eq_zero_iff]
  exact beq_iff_eq

end Reduced

/-- The fraction stands for a number, whether it is in lowest terms or not. -/
def IsNumber (a : Fraction) : Prop := a.den ≠ 0

instance (a : Fraction) : Decidable a.IsNumber := by
  unfold IsNumber
  infer_instance

theorem IsNumber.den_toInt_ne_zero {a : Fraction} (number : a.IsNumber) : a.den.toInt ≠ 0 :=
  fun zero => number (Int64.toInt_inj.mp zero)

theorem Reduced.isNumber {a : Fraction} (reduced : a.Reduced) : a.IsNumber := by
  intro zero
  have positive := reduced.den_pos
  rw [zero] at positive
  cases positive

/-- The fraction of a rational number, if both of its parts are words. -/
def ofRat (q : ℚ) : Checked Fraction := do
  let num ← narrow .numeratorOverflow q.num
  let den ← narrow .denominatorOverflow q.den
  return ⟨num, den⟩

theorem narrow_eq_ok_iff {fault : Fault} {x : Int} {n : Int64} :
    narrow fault x = .ok n ↔ n.toInt = x := by
  unfold narrow
  constructor
  · intro narrowed
    split at narrowed
    next range =>
      cases narrowed
      rw [Int64.toInt_minValue, Int64.toInt_maxValue] at range
      exact Int64.toInt_ofInt_of_le range.1 (by omega)
    next => cases narrowed
  · intro same
    subst same
    rw [if_pos ⟨n.minValue_le_toInt, n.toInt_le⟩, Int64.ofInt_toInt]

/-- A number is narrowed to the one fraction in lowest terms that stands for it. -/
theorem ofRat_eq_ok_iff {q : ℚ} {c : Fraction} :
    ofRat q = .ok c ↔ c.Reduced ∧ c.value = q := by
  unfold ofRat
  rw [Checked.bind_eq_ok_iff]
  constructor
  · rintro ⟨num, numResult, rest⟩
    obtain ⟨den, denResult, result⟩ := Checked.bind_eq_ok_iff.mp rest
    cases result
    have numWord := narrow_eq_ok_iff.mp numResult
    have denWord := narrow_eq_ok_iff.mp denResult
    refine ⟨⟨?_, ?_⟩, ?_⟩
    · rw [denWord]
      exact_mod_cast q.den_pos
    · rw [numWord, denWord]
      exact q.reduced
    · simp only [value, numWord, denWord, Int.cast_natCast]
      exact q.num_div_den
  · rintro ⟨reduced, rfl⟩
    refine ⟨c.num, narrow_eq_ok_iff.mpr reduced.num_value.symm, ?_⟩
    exact Checked.bind_eq_ok_iff.mpr ⟨c.den, narrow_eq_ok_iff.mpr reduced.den_value.symm, rfl⟩

theorem narrow_eq_error {fault other : Fault} {x : Int}
    (failed : narrow fault x = .error other) : other = fault := by
  unfold narrow at failed
  split at failed
  · cases failed
  · cases failed
    rfl

theorem ofRat_yields (q : ℚ) : Checked.Yields (ofRat q) fun c => c.Reduced ∧ c.value = q := by
  cases result : ofRat q with
  | ok c => exact ofRat_eq_ok_iff.mp result
  | error fault =>
      unfold ofRat at result
      cases first : narrow .numeratorOverflow q.num with
      | error other =>
          rw [first] at result
          cases result
          exact .inl (narrow_eq_error first)
      | ok num =>
          cases second : narrow .denominatorOverflow q.den with
          | error other =>
              simp only [first, second, bind, Except.bind] at result
              cases result
              exact .inr (.inl (narrow_eq_error second))
          | ok den =>
              simp only [first, second, bind, Except.bind] at result
              cases result

theorem ofRat_value {a : Fraction} (reduced : a.Reduced) : ofRat a.value = .ok a :=
  ofRat_eq_ok_iff.mpr ⟨reduced, rfl⟩

/-- With the sign of the denominator moved to the numerator, a quotient of coprime parts is in
lowest terms. -/
theorem withPositiveDenominator_eq {q : ℚ} {n d : Int} (nonzero : d ≠ 0)
    (numBound : |n| < Wide.limit) (denBound : |d| < Wide.limit)
    (coprime : Nat.Coprime n.natAbs d.natAbs) (same : (n / d : ℚ) = q) :
    withPositiveDenominator n d = .ok (q.num, (q.den : Int)) := by
  subst same
  unfold withPositiveDenominator
  by_cases negative : d < 0
  · have positive : 0 < -d := by omega
    have flipped : (n / d : ℚ) = ((-n : Int) : ℚ) / ((-d : Int) : ℚ) := by
      push_cast
      rw [neg_div_neg_eq]
    have coprime' : Nat.Coprime (-n).natAbs (-d).natAbs := by simpa using coprime
    rw [if_pos negative, Wide.neg_of_abs_lt numBound, Wide.neg_of_abs_lt denBound, flipped,
      Rat.num_div_eq_of_coprime positive coprime', Rat.den_div_eq_of_coprime positive coprime']
    rfl
  · have positive : 0 < d := by omega
    rw [if_neg negative, Rat.num_div_eq_of_coprime positive coprime,
      Rat.den_div_eq_of_coprime positive coprime]
    rfl

/-- Reducing and narrowing a wide quotient is narrowing its value. -/
theorem ofWide_eq_ofRat {n d : Int} (nonzero : d ≠ 0) (numBound : |n| < Wide.limit)
    (denBound : |d| < Wide.limit) : ofWide n d = ofRat (n / d) := by
  have divisorPos : 0 < Nat.gcd n.natAbs d.natAbs :=
    Nat.gcd_pos_of_pos_right _ (Int.natAbs_pos.mpr nonzero)
  have divisor : (max (Nat.gcd n.natAbs d.natAbs) 1 : Int) = Int.gcd n d := by
    have := Int.gcd_def n d
    simp only [Int.gcd_def]
    omega
  obtain ⟨g, gcd_eq⟩ : ∃ g : Int, g = Int.gcd n d := ⟨_, rfl⟩
  have gPos : 0 < g := by
    rw [gcd_eq]
    exact_mod_cast divisorPos
  have numExact : n / g * g = n := Int.ediv_mul_cancel (gcd_eq ▸ Int.gcd_dvd_left n d)
  have denExact : d / g * g = d := Int.ediv_mul_cancel (gcd_eq ▸ Int.gcd_dvd_right n d)
  have denNonzero : d / g ≠ 0 := fun zero => nonzero (by rw [← denExact, zero, zero_mul])
  have bounded {x : Int} (bound : |x| < Wide.limit) (exact : x / g * g = x) :
      |x / g| < Wide.limit := by
    refine lt_of_le_of_lt ?_ bound
    calc |x / g| ≤ |x / g| * g := le_mul_of_one_le_right (abs_nonneg _) gPos
      _ = |x / g| * |g| := by rw [abs_of_pos gPos]
      _ = |x| := by rw [← abs_mul, exact]
  have coprime : Nat.Coprime (n / g).natAbs (d / g).natAbs := by
    rw [gcd_eq]
    exact Int.gcd_ediv_gcd_ediv_gcd_of_ne_zero_right nonzero
  have same : ((n / g : Int) / (d / g : Int) : ℚ) = n / d := by
    have gNonzero : (g : ℚ) ≠ 0 := by exact_mod_cast gPos.ne'
    rw [← mul_div_mul_right _ _ gNonzero]
    exact_mod_cast congrArg₂ (fun x y : Int => (x : ℚ) / (y : ℚ)) numExact denExact
  unfold ofWide
  rw [Wide.magnitude_of_abs_lt numBound, Wide.magnitude_of_abs_lt denBound]
  simp only [bind, Except.bind]
  rw [divisor, ← gcd_eq, withPositiveDenominator_eq denNonzero (bounded numBound numExact)
    (bounded denBound denExact) coprime same]
  rfl

/-- Whatever the operands of a wide quotient were, its result is in lowest terms. -/
theorem ofWide_returns {n d : Int} (nonzero : d ≠ 0) (numFits : Wide.Fits n)
    (denFits : Wide.Fits d) :
    Checked.Returns (ofWide n d) fun c => c.Reduced ∧ c.value = n / d := by
  refine Checked.returns_iff.mpr fun c computed => ?_
  obtain ⟨a, numMagnitude, rest⟩ := Checked.bind_eq_ok_iff.mp computed
  obtain ⟨b, denMagnitude, -⟩ := Checked.bind_eq_ok_iff.mp rest
  rw [ofWide_eq_ofRat nonzero ((Wide.magnitude_returns numFits).of_eq_ok numMagnitude)
    ((Wide.magnitude_returns denFits).of_eq_ok denMagnitude)] at computed
  exact ofRat_eq_ok_iff.mp computed

end Fraction

end CurveForge
