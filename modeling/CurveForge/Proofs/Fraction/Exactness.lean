import Mathlib
import CurveForge.Proofs.Fraction.Arithmetic

/-!
# Exact results and overflow

Sums, products, quotients and inverses of fractions in lowest terms end in the exact
result whenever its numerator and denominator are words. Otherwise the fault tells
which of them is none, the numerator first. No wide value on the way is too large.

Reducing a quotient can also follow Euclid's algorithm remainder by remainder, with
division toward zero; it ends in the same way.
-/

namespace CurveForge

namespace Wide

/-- The remainder takes the place of the divisor, and the divisor that of the dividend, until no
remainder is left. -/
def lastRemainder (a b : Int) : Int :=
  if b = 0 then a else lastRemainder b (a.tmod b)
termination_by b.natAbs
decreasing_by
  rw [Int.natAbs_tmod]
  exact Nat.mod_lt _ (by omega)

def absolute (a : Int) : Checked Int := if a < 0 then neg a else pure a

/-- The greatest common divisor of two wide values by remainders. -/
def gcd (a b : Int) : Checked Int := do
  let a ← absolute a
  let b ← absolute b
  return lastRemainder a b

/-- The induction is on the divisor: a remainder is smaller. -/
theorem lastRemainder_natCast (m n : Nat) : lastRemainder m n = Nat.gcd m n := by
  induction n using Nat.strong_induction_on generalizing m with
  | _ n ih =>
      rw [lastRemainder]
      by_cases zero : n = 0
      · simp [zero]
      · have remainder : (m : Int).tmod n = ((m % n : Nat) : Int) := rfl
        rw [if_neg (Int.natCast_ne_zero.mpr zero), remainder,
          ih (m % n) (Nat.mod_lt _ (Nat.pos_of_ne_zero zero)) n, Nat.gcd_comm m n,
          Nat.gcd_rec n m, Nat.gcd_comm n]

theorem absolute_eq (x : Int) : absolute x = Nat.cast <$> magnitude x := by
  unfold absolute magnitude
  by_cases negative : x < 0
  · simp only [if_pos negative]
    unfold neg check
    split
    · have cast : ((-x).toNat : Int) = -x := by omega
      exact congrArg Except.ok cast.symm
    · rfl
  · simp only [if_neg negative]
    have cast : (x.toNat : Int) = x := by omega
    exact congrArg Except.ok cast.symm

theorem gcd_eq (a b : Int) : gcd a b = do
    let m ← magnitude a
    let n ← magnitude b
    return (Nat.gcd m n : Int) := by
  unfold gcd
  rw [absolute_eq, absolute_eq]
  cases magnitude a with
  | error fault => rfl
  | ok m =>
      cases magnitude b with
      | error fault => rfl
      | ok n => exact congrArg Except.ok (lastRemainder_natCast m n)

theorem eq_natAbs_of_magnitude {x : Int} {m : Nat} (computed : magnitude x = .ok m) :
    m = x.natAbs := by
  unfold magnitude at computed
  split at computed
  next negative =>
    unfold neg check at computed
    split at computed
    · cases computed
      omega
    · cases computed
  next =>
    cases computed
    omega

end Wide

namespace Fraction

/-- Brings a wide quotient to lowest terms by remainders, and narrows it. -/
def reduceByRemainders (n d : Int) : Checked Fraction := do
  let divisor ← Wide.gcd n d
  let divisor := max divisor 1
  let (n', d') ← withPositiveDenominator (n.tdiv divisor) (d.tdiv divisor)
  let num ← narrow .numeratorOverflow n'
  let den ← narrow .denominatorOverflow d'
  return ⟨num, den⟩

/-- Reducing by remainders is reducing: the divisor divides both parts, so it does not matter how
their quotients are rounded. -/
theorem reduceByRemainders_eq (n d : Int) : reduceByRemainders n d = ofWide n d := by
  unfold reduceByRemainders ofWide
  rw [Wide.gcd_eq]
  cases numMagnitude : Wide.magnitude n with
  | error fault => rfl
  | ok a =>
      cases denMagnitude : Wide.magnitude d with
      | error fault => rfl
      | ok b =>
          have divides (x : Int) (common : Nat.gcd a b ∣ x.natAbs) :
              (max (Nat.gcd a b) 1 : Int) ∣ x := by
            rcases Nat.eq_zero_or_pos (Nat.gcd a b) with zero | positive
            · rw [zero]
              exact one_dvd x
            · rw [max_eq_left (by exact_mod_cast positive)]
              exact Int.natCast_dvd.mpr common
          have numDivides := divides n (by
            rw [← Wide.eq_natAbs_of_magnitude numMagnitude]
            exact Nat.gcd_dvd_left a b)
          have denDivides := divides d (by
            rw [← Wide.eq_natAbs_of_magnitude denMagnitude]
            exact Nat.gcd_dvd_right a b)
          simp only [bind, Except.bind, pure, Except.pure]
          rw [Int.tdiv_eq_ediv_of_dvd numDivides, Int.tdiv_eq_ediv_of_dvd denDivides]

def FitsWord (x : Int) : Prop := -2 ^ 63 ≤ x ∧ x < 2 ^ 63

instance (x : Int) : Decidable (FitsWord x) := by
  unfold FitsWord
  infer_instance

/-- The computation stops with a report. -/
def Stops (x : Checked Fraction) (report : String) : Prop :=
  ∃ fault, x = .error fault ∧ fault.message = report

/-- The computation ends in the one fraction in lowest terms that stands for the number, and where
that has no words it tells which part is too large. -/
structure Settles (x : Checked Fraction) (q : ℚ) : Prop where
  returns : FitsWord q.num → FitsWord q.den →
    ∃ c, x = .ok c ∧ c.Reduced ∧ c.value = q ∧
      ∀ other : Fraction, other.Reduced → other.value = q → other = c
  numerator : ¬FitsWord q.num → Stops x "rational numerator overflow"
  denominator : FitsWord q.num → ¬FitsWord q.den → Stops x "rational denominator overflow"

theorem narrow_of_fits {x : Int} (fault : Fault) (fits : FitsWord x) :
    ∃ n, narrow fault x = .ok n := by
  refine ⟨Int64.ofInt x, narrow_eq_ok_iff.mpr ?_⟩
  obtain ⟨lower, upper⟩ := fits
  exact Int64.toInt_ofInt_of_le (by omega) (by omega)

theorem narrow_of_not_fits {x : Int} (fault : Fault) (wide : ¬FitsWord x) :
    narrow fault x = .error fault := by
  cases result : narrow fault x with
  | error other => rw [narrow_eq_error result]
  | ok n =>
      have lower := n.le_toInt
      have upper := n.toInt_lt
      rw [narrow_eq_ok_iff.mp result] at lower upper
      exact absurd ⟨lower, upper⟩ wide

theorem ofRat_settles (q : ℚ) : Settles (ofRat q) q where
  returns numFits denFits := by
    obtain ⟨num, numResult⟩ := narrow_of_fits .numeratorOverflow numFits
    obtain ⟨den, denResult⟩ := narrow_of_fits .denominatorOverflow denFits
    have result : ofRat q = .ok ⟨num, den⟩ := by
      unfold ofRat
      rw [numResult, denResult]
      rfl
    obtain ⟨reduced, value⟩ := ofRat_eq_ok_iff.mp result
    exact ⟨_, result, reduced, value, fun other otherReduced same =>
      otherReduced.eq_of_value_eq reduced (same.trans value.symm)⟩
  numerator wide := by
    refine ⟨.numeratorOverflow, ?_, rfl⟩
    unfold ofRat
    rw [narrow_of_not_fits _ wide]
    rfl
  denominator numFits wide := by
    obtain ⟨num, numResult⟩ := narrow_of_fits .numeratorOverflow numFits
    refine ⟨.denominatorOverflow, ?_, rfl⟩
    unfold ofRat
    rw [numResult, narrow_of_not_fits _ wide]
    rfl

theorem fitsWord_toInt (n : Int64) : FitsWord n.toInt := ⟨n.le_toInt, n.toInt_lt⟩

variable {a b : Fraction}

/-- What stands for the exact result is returned. -/
theorem Settles.eq_ok {x : Checked Fraction} {q : ℚ} (settles : Settles x q) (reduced : a.Reduced)
    (value : a.value = q) : x = .ok a := by
  subst value
  obtain ⟨c, result, -, -, unique⟩ := settles.returns
    (reduced.num_value ▸ fitsWord_toInt a.num) (reduced.den_value ▸ fitsWord_toInt a.den)
  rw [result, unique a reduced rfl]

/-- Arithmetic is exact, or it stops with the part of the exact result that is no word. This covers
the wide values on the way: a report on one of them would be another. -/
theorem operations_settle (left : a.Reduced) (right : b.Reduced) :
    Settles (a.add b) (a.value + b.value) ∧
    Settles (a.mul b) (a.value * b.value) ∧
    (b.value ≠ 0 → Settles (a.div b) (a.value / b.value) ∧
      ∃ inverse, b.recip? = some <$> inverse ∧ Settles inverse b.value⁻¹) ∧
    (∀ n d : Int64, d ≠ 0 → Settles (ofQuotient n d) (n.toInt / d.toInt)) ∧
    ∀ n d : Int, ofWide n d = reduceByRemainders n d := by
  refine ⟨?_, ?_, ?_, ?_, fun n d => (reduceByRemainders_eq n d).symm⟩
  · rw [left.add_eq right]
    exact ofRat_settles _
  · rw [left.mul_eq right]
    exact ofRat_settles _
  · intro nonzero
    rw [left.div_eq right nonzero]
    exact ⟨ofRat_settles _, _, right.recip?_eq nonzero, ofRat_settles _⟩
  · intro n d nonzero
    rw [ofQuotient_eq n nonzero]
    exact ofRat_settles _

def leastOverGreatest : Fraction := ⟨Int64.minValue, Int64.maxValue⟩

def smallestPositive : Fraction := ⟨1, Int64.maxValue⟩

/-- At the limits of the words, the widest sum of all stops at its numerator only, a product stops
at its denominator, and the least word has no quotient by minus one. -/
theorem operations_settle_limits :
    leastOverGreatest.Reduced ∧ smallestPositive.Reduced ∧ smallestPositive.value ≠ 0 ∧
      (-1 : Int64) ≠ 0 ∧
      Stops (leastOverGreatest.add leastOverGreatest) "rational numerator overflow" ∧
      leastOverGreatest.add smallestPositive = .ok ⟨-1, 1⟩ ∧
      Stops (leastOverGreatest.mul smallestPositive) "rational denominator overflow" ∧
      leastOverGreatest.div smallestPositive = .ok (ofInt64 Int64.minValue) ∧
      smallestPositive.recip? = .ok (some (ofInt64 Int64.maxValue)) ∧
      Stops (ofQuotient Int64.minValue (-1)) "rational numerator overflow" := by
  have left : leastOverGreatest.Reduced := by decide +kernel
  have right : smallestPositive.Reduced := by decide +kernel
  have nonzero : smallestPositive.value ≠ 0 := by decide +kernel
  have divisor : (-1 : Int64) ≠ 0 := by decide
  obtain ⟨sum, product, others, quotient, -⟩ := operations_settle left right
  obtain ⟨ratio, inverse, inverted, settles⟩ := others nonzero
  refine ⟨left, right, nonzero, divisor, ?_, ?_, ?_, ?_, ?_, ?_⟩
  · exact (operations_settle left left).1.numerator (by decide +kernel)
  · exact sum.eq_ok (by decide) (by decide +kernel)
  · exact product.denominator (by decide +kernel) (by decide +kernel)
  · exact ratio.eq_ok (reduced_ofInt64 _) (by decide +kernel)
  · rw [inverted, settles.eq_ok (reduced_ofInt64 Int64.maxValue) (by decide +kernel)]
    rfl
  · exact (quotient Int64.minValue (-1) divisor).numerator (by decide +kernel)

end Fraction

end CurveForge
