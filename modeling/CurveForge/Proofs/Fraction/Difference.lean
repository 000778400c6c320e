import CurveForge.Proofs.Fraction.Exactness

/-!
# Where a difference stops

A difference is a sum with the opposite, and the opposite is taken of a word. The least
word has none, so a difference can stop although its exact value is a fraction of words.
-/

namespace CurveForge

namespace Fraction

/-- A number whose numerator and denominator in lowest terms are words. -/
def HasWords (q : ℚ) : Prop := FitsWord q.num ∧ FitsWord q.den

instance (q : ℚ) : Decidable (HasWords q) := by
  unfold HasWords
  infer_instance

/-- The exact result is returned in lowest terms if it has words, and the computation stops
otherwise. -/
structure Answers (x : Checked Fraction) (q : ℚ) : Prop where
  returns : HasWords q → ∃ c, x = .ok c ∧ c.Reduced ∧ c.value = q
  stops : ¬HasWords q → ∃ report, Stops x report

variable {a b : Fraction}

theorem Settles.answers {x : Checked Fraction} {q : ℚ} (settles : Settles x q) : Answers x q where
  returns words := by
    obtain ⟨c, result, reduced, value, -⟩ := settles.returns words.1 words.2
    exact ⟨c, result, reduced, value⟩
  stops wide := by
    by_cases numFits : FitsWord q.num
    · exact ⟨_, settles.denominator numFits fun denFits => wide ⟨numFits, denFits⟩⟩
    · exact ⟨_, settles.numerator numFits⟩

theorem Reduced.sub_settles (left : a.Reduced) (right : b.Reduced) (negatable : b.Negatable) :
    Settles (a.sub b) (a.value - b.value) := by
  have opposite : b.neg = .ok ⟨-b.num, b.den⟩ := by
    unfold neg negWord
    rw [if_neg negatable]
    rfl
  obtain ⟨reduced, value⟩ :=
    ofRat_eq_ok_iff.mp ((right.neg_eq negatable).symm.trans opposite)
  have sum : a.sub b = a.add ⟨-b.num, b.den⟩ := by
    unfold sub
    rw [opposite]
    rfl
  rw [sum, sub_eq_add_neg, ← value, left.add_eq reduced]
  exact ofRat_settles _

theorem sub_of_least (a : Fraction) (least : ¬b.Negatable) :
    a.sub b = .error .negateOverflow := by
  have word : b.num = Int64.minValue := not_not.mp least
  unfold sub neg negWord
  rw [if_pos word]
  rfl

/-- A difference is answered by its exact value unless it takes away a fraction over the least word
and the exact value has words: then it stops at the opposite, before it has added anything. -/
theorem sub_answers_iff (left : a.Reduced) (right : b.Reduced) :
    (Answers (a.sub b) (a.value - b.value) ↔
      b.Negatable ∨ ¬HasWords (a.value - b.value)) ∧
    (b.Negatable → Settles (a.sub b) (a.value - b.value)) ∧
    (¬b.Negatable → Stops (a.sub b) "attempt to negate with overflow") := by
  have stopped (least : ¬b.Negatable) : Stops (a.sub b) "attempt to negate with overflow" :=
    ⟨.negateOverflow, sub_of_least a least, rfl⟩
  refine ⟨⟨fun answers => ?_, fun exact => ?_⟩, left.sub_settles right, stopped⟩
  · by_contra neither
    obtain ⟨least, words⟩ := not_or.mp neither
    obtain ⟨c, result, -⟩ := answers.returns (not_not.mp words)
    rw [sub_of_least a least] at result
    cases result
  · rcases exact with negatable | wide
    · exact (left.sub_settles right negatable).answers
    · exact
        { returns := fun words => absurd words wide
          stops := fun _ => by
            by_cases negatable : b.Negatable
            · exact (left.sub_settles right negatable).answers.stops wide
            · exact ⟨_, stopped negatable⟩ }

def leastInteger : Fraction := ofInt64 Int64.minValue

/-- Taking the least word from one stops at the opposite, as its exact value has no words either,
and taking it from minus one stops there although the greatest word is the exact value. -/
theorem sub_answers_limits :
    leastInteger.Reduced ∧ ¬leastInteger.Negatable ∧ leastOverGreatest.Reduced ∧
      smallestPositive.Reduced ∧
      Answers ((ofInt64 1).sub leastInteger) ((ofInt64 1).value - leastInteger.value) ∧
      ¬Answers ((ofInt64 (-1)).sub leastInteger) ((ofInt64 (-1)).value - leastInteger.value) ∧
      leastInteger.sub (ofInt64 (-1)) = .ok (ofInt64 (-Int64.maxValue)) ∧
      Stops (leastOverGreatest.sub smallestPositive) "rational numerator overflow" := by
  have least : leastInteger.Reduced := reduced_ofInt64 _
  have unnegatable : ¬leastInteger.Negatable := by decide
  have ratio : leastOverGreatest.Reduced := by decide +kernel
  have small : smallestPositive.Reduced := by decide +kernel
  refine ⟨least, unnegatable, ratio, small, ?_, ?_, ?_, ?_⟩
  · exact (sub_answers_iff (reduced_ofInt64 1) least).1.mpr (.inr (by decide +kernel))
  · intro answers
    rcases (sub_answers_iff (reduced_ofInt64 (-1)) least).1.mp answers with negatable | wide
    · exact unnegatable negatable
    · exact wide (by decide +kernel)
  · exact ((sub_answers_iff least (reduced_ofInt64 (-1))).2.1 (by decide)).eq_ok
      (reduced_ofInt64 _) (by decide +kernel)
  · exact ((sub_answers_iff ratio small).2.1 (by decide)).numerator (by decide +kernel)

/-- The least word less itself is zero, and the difference stops. -/
theorem least_sub_least_stops :
    leastInteger.Reduced ∧ HasWords (leastInteger.value - leastInteger.value) ∧
      leastInteger.value - leastInteger.value = (ofInt64 0).value ∧
      Stops (leastInteger.sub leastInteger) "attempt to negate with overflow" :=
  ⟨reduced_ofInt64 _, by decide +kernel, by decide +kernel,
    .negateOverflow, sub_of_least _ (by decide), rfl⟩

end Fraction

end CurveForge
