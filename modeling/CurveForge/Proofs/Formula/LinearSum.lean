import Mathlib
import CurveForge.Formula
import CurveForge.Proofs.Formula.Meaning
import CurveForge.Proofs.Fraction.Arithmetic

/-!
# Formulas of linear sums

The formula of a linear sum has the value of the sum, whatever way its weights are
written and its common scale is taken out. If the weights are in lowest terms, the
only numerator that stands in the way of a formula is the least word, which has no
magnitude.
-/

namespace CurveForge

open Checked (Returns)
open Reading

namespace Literal

theorem value_ofFraction (style : NumberStyle) (a : Fraction) :
    (ofFraction style a).value = a.value := by
  unfold ofFraction
  split
  next whole =>
    have den : a.den.toInt = 1 := congrArg Int64.toInt (beq_iff_eq.mp whole)
    simp [value, Fraction.value, den]
  next => rfl

theorem hasValue_ofFraction (style : NumberStyle) {a : Fraction} (number : a.IsNumber) :
    (ofFraction style a).HasValue := by
  unfold ofFraction
  split
  · trivial
  · exact number.den_toInt_ne_zero

end Literal

namespace WeightedTerm

/-- The weight stands for a number other than zero. -/
structure Regular (term : WeightedTerm) : Prop where
  number : term.weight.IsNumber
  nonzero : term.weight.isZero = false

/-- The weight is in lowest terms and not zero. -/
structure Proper (term : WeightedTerm) : Prop where
  reduced : term.weight.Reduced
  nonzero : term.weight.value ≠ 0

theorem Proper.regular {term : WeightedTerm} (proper : term.Proper) : term.Regular :=
  ⟨proper.reduced.isNumber, Fraction.isZero_of_value_ne_zero proper.nonzero⟩

end WeightedTerm

/-- The signed term stands for the weight at the name, and can be read back if that is an
identifier. -/
structure SignedTerm.Writes (written : SignedTerm) (weight : ℚ) (name : String) : Prop where
  readable : isIdentifier name = true → written.Readable
  name : written.name = name
  coefficient : written.coefficient = weight

namespace LinearSum

variable {weight scale : Fraction} {name : String} {terms : List WeightedTerm} {sum : LinearSum}
  {written : List SignedTerm}

theorem signedTerm_returns (style : NumberStyle) (name : String) (number : weight.IsNumber) :
    Returns (signedTerm style weight name) fun written => written.Writes weight.value name := by
  unfold signedTerm
  by_cases one : weight = 1
  · rw [if_pos one]
    refine ⟨fun identifier => ⟨identifier, fun _ absent => nomatch absent⟩, rfl, ?_⟩
    rw [one, Fraction.value_one]
    exact one_mul 1
  rw [if_neg one]
  by_cases minusOne : weight = ⟨-1, 1⟩
  · rw [if_pos minusOne]
    refine ⟨fun identifier => ⟨identifier, fun _ absent => nomatch absent⟩, rfl, ?_⟩
    rw [minusOne, Fraction.value_neg_one]
    exact mul_one (-1)
  rw [if_neg minusOne]
  by_cases negative : weight.isNegative = true
  · have opposite : Returns weight.abs fun c => c.den = weight.den ∧ c.value = -weight.value := by
      unfold Fraction.abs
      rw [if_pos (of_decide_eq_true negative)]
      exact Fraction.neg_returns weight
    rw [if_pos negative]
    apply opposite.bind
    intro magnitude holds
    have magnitudeNumber : magnitude.IsNumber := fun zero => number (holds.1.symm.trans zero)
    refine ⟨fun identifier => ⟨identifier, ?_⟩, rfl, ?_⟩
    · rintro literal ⟨⟩
      exact Literal.hasValue_ofFraction style magnitudeNumber
    · rw [SignedTerm.coefficient, if_pos rfl, Option.elim_some, Literal.value_ofFraction, holds.2,
        neg_one_mul, neg_neg]
  · rw [if_neg negative]
    refine ⟨fun identifier => ⟨identifier, ?_⟩, rfl, ?_⟩
    · rintro literal ⟨⟩
      exact Literal.hasValue_ofFraction style number
    · rw [SignedTerm.coefficient, if_neg Bool.false_ne_true, Option.elim_some,
        Literal.value_ofFraction, one_mul]

/-! ## The scale -/

theorem commonScale?_of_two (first second : WeightedTerm) (rest : List WeightedTerm)
    (style : NumberStyle) :
    commonScale? ⟨first :: second :: rest, style⟩ = first.weight.abs >>= fun scale =>
      allOfMagnitude scale (second :: rest) >>= fun shared =>
        .ok (if shared then some scale else none) := rfl

/-- A common scale is a magnitude of one of the weights. -/
theorem commonScale?_returns (regular : ∀ term ∈ sum.terms, term.Regular) :
    Returns sum.commonScale? fun scale? =>
      ∀ scale ∈ scale?, scale.IsNumber ∧ scale.isZero = false := by
  obtain ⟨terms, style⟩ := sum
  match terms with
  | [] => exact fun _ absent => nomatch absent
  | [_] => exact fun _ absent => nomatch absent
  | first :: second :: rest =>
      have nonzero : first.weight.value ≠ 0 :=
        Fraction.value_ne_zero (regular first List.mem_cons_self).number
          (regular first List.mem_cons_self).nonzero
      rw [commonScale?_of_two]
      apply (Fraction.abs_returns first.weight).bind
      intro scale holds
      have scaleNumber : scale.IsNumber := fun zero =>
        (regular first List.mem_cons_self).number (holds.1.symm.trans zero)
      have scaleNonzero : scale.isZero = false := by
        apply Fraction.isZero_of_value_ne_zero
        rcases holds.2 with same | opposite
        · rwa [same]
        · rwa [opposite, neg_ne_zero]
      refine Checked.returns_iff.mpr fun scale? found => ?_
      obtain ⟨shared, -, chosen⟩ := Checked.bind_eq_ok_iff.mp found
      cases shared with
      | false =>
          cases chosen
          exact fun _ absent => nomatch absent
      | true =>
          cases chosen
          rintro _ ⟨⟩
          exact ⟨scaleNumber, scaleNonzero⟩

/-- Each signed term stands for a term divided by the scale. -/
def WritesScaled (scale : Fraction) (terms : List WeightedTerm) (written : List SignedTerm) :
    Prop :=
  List.Forall₂ (fun term signed =>
    SignedTerm.Writes signed (term.weight.value / scale.value) term.name) terms written

theorem scaledTerms_returns (regular : ∀ term ∈ sum.terms, term.Regular)
    (nonzero : scale.isZero = false) :
    Returns (sum.scaledTerms scale) (WritesScaled scale sum.terms) := by
  apply Checked.returns_mapM
  intro term member
  apply ((regular term member).number.div_returns nonzero).bind
  intro weight holds
  rw [← holds.2]
  exact signedTerm_returns sum.style term.name holds.1.isNumber

/-! ## The value of a formula -/

section Value

variable {point : String → ℚ} {formula : Formula}

def value (point : String → ℚ) (sum : LinearSum) : ℚ :=
  (sum.terms.map fun term => term.weight.value * point term.name).sum

namespace WritesScaled

theorem ne_nil (writes : WritesScaled scale terms written) (nonempty : terms ≠ []) :
    written ≠ [] := by
  rintro rfl
  exact nonempty (List.forall₂_nil_right_iff.mp writes)

theorem readable (writes : WritesScaled scale terms written)
    (identifiers : ∀ term ∈ terms, isIdentifier term.name = true) :
    ∀ signed ∈ written, signed.Readable := by
  intro signed member
  obtain ⟨i, bound, rfl⟩ := List.getElem_of_mem member
  have related := writes.get (writes.length_eq ▸ bound) bound
  exact related.readable (identifiers _ (List.get_mem _ _))

theorem names (writes : WritesScaled scale terms written) :
    written.map SignedTerm.name = terms.map WeightedTerm.name := by
  rw [← List.forall₂_eq_eq_eq, List.forall₂_map_left_iff, List.forall₂_map_right_iff]
  apply writes.flip.imp
  intro signed term same
  exact same.name

/-- Multiplied with the scale, the signed terms have the value of the sum. -/
theorem value_eq (writes : WritesScaled scale sum.terms written) (nonzero : scale.value ≠ 0)
    (point : String → ℚ) :
    sum.value point = scale.value * (written.map (SignedTerm.value point)).sum := by
  rw [value, ← List.sum_map_mul_left]
  congr 1
  rw [← List.forall₂_eq_eq_eq, List.forall₂_map_left_iff, List.forall₂_map_right_iff]
  apply writes.imp
  intro term signed same
  rw [SignedTerm.value, same.coefficient, same.name, ← mul_assoc, mul_div_cancel₀ _ nonzero]

end WritesScaled

/-- The formula uses the names of the sum and has its value; it can be read back if the names
are identifiers. -/
structure Renders (sum : LinearSum) (formula : Formula) : Prop where
  readable : (∀ term ∈ sum.terms, isIdentifier term.name = true) → formula.Readable
  names : formula.terms.map SignedTerm.name = sum.terms.map WeightedTerm.name
  value : ∀ point, formula.value point = sum.value point

theorem renders_zero (style : NumberStyle) : Renders ⟨[], style⟩ .zero :=
  ⟨fun _ => trivial, rfl, fun _ => rfl⟩

/-- Whatever way the scale is written, it is multiplied with the scaled terms. -/
theorem renders_withScale (nonempty : sum.terms ≠ []) (number : scale.IsNumber)
    (nonzero : scale.isZero = false) (writes : WritesScaled scale sum.terms written) :
    sum.Renders (withScale sum.style scale written) := by
  have writtenNonempty := writes.ne_nil nonempty
  have total := writes.value_eq (Fraction.value_ne_zero number nonzero)
  unfold withScale
  by_cases one : scale = 1
  · rw [if_pos one]
    refine ⟨?_, writes.names, ?_⟩
    · intro identifiers
      exact ⟨writtenNonempty, writes.readable identifiers⟩
    · intro point
      rw [total point, one, Fraction.value_one, one_mul]
      rfl
  rw [if_neg one]
  by_cases unit : scale.num = 1
  · have scaleValue : scale.value = 1 / scale.den.toInt := by
      rw [Fraction.value, unit]
      rfl
    rw [if_pos unit]
    refine ⟨?_, writes.names, ?_⟩
    · intro identifiers
      exact ⟨writtenNonempty, writes.readable identifiers, trivial,
        Int.cast_ne_zero.mpr number.den_toInt_ne_zero⟩
    · intro point
      rw [total point, scaleValue, one_div_mul_eq_div]
      rfl
  · rw [if_neg unit]
    refine ⟨?_, writes.names, ?_⟩
    · intro identifiers
      exact ⟨writtenNonempty, writes.readable identifiers,
        Literal.hasValue_ofFraction sum.style number⟩
    · intro point
      rw [total point, Formula.value, Literal.value_ofFraction]

theorem formula_of_nonempty (nonempty : sum.terms ≠ []) :
    sum.formula = sum.commonScale? >>= fun scale? =>
      sum.scaledTerms (scale?.getD 1) >>= fun terms =>
        .ok (withScale sum.style (scale?.getD 1) terms) :=
  if_neg (by simpa using nonempty)

/-- A formula of a sum renders it. -/
theorem formula_returns (regular : ∀ term ∈ sum.terms, term.Regular) :
    Returns sum.formula sum.Renders := by
  by_cases nonempty : sum.terms = []
  · obtain ⟨terms, style⟩ := sum
    cases nonempty
    exact renders_zero style
  rw [formula_of_nonempty nonempty]
  apply (commonScale?_returns regular).bind
  intro scale? common
  have scaleHolds : (scale?.getD 1).IsNumber ∧ (scale?.getD 1).isZero = false := by
    cases scale? with
    | none => decide
    | some scale => exact common scale rfl
  apply (scaledTerms_returns regular scaleHolds.2).bind
  intro written writes
  exact renders_withScale nonempty scaleHolds.1 scaleHolds.2 writes

/-- The written form of a sum has the value of the sum. -/
theorem Renders.evaluate_text (renders : sum.Renders formula)
    (identifiers : ∀ term ∈ sum.terms, isIdentifier term.name = true) {store : Store ℚ}
    (bound : ∀ name ∈ sum.terms.map WeightedTerm.name, store name = some (.scalar (point name))) :
    evaluate store formula.text = some (sum.value point) := by
  rw [Formula.evaluate_text (renders.readable identifiers), renders.value]
  intro term member
  refine bound term.name ?_
  rw [← renders.names]
  exact List.mem_map_of_mem member

end Value

theorem name_of_signedTerm {style : NumberStyle} {signed : SignedTerm}
    (result : signedTerm style weight name = .ok signed) : signed.name = name := by
  unfold signedTerm at result
  split at result
  · cases result
    rfl
  · split at result
    · cases result
      rfl
    · split at result
      · obtain ⟨magnitude, -, done⟩ := Checked.bind_eq_ok_iff.mp result
        cases done
        rfl
      · cases result
        rfl

theorem names_of_scaledTerms (result : sum.scaledTerms scale = .ok written) :
    written.map SignedTerm.name = sum.terms.map WeightedTerm.name := by
  symm
  apply map_eq_map_of_forall₂
  apply (Checked.mapM_eq_ok_iff.mp result).imp
  intro term signed scaled
  obtain ⟨weight, -, signedResult⟩ := Checked.bind_eq_ok_iff.mp scaled
  exact (name_of_signedTerm signedResult).symm

theorem terms_withScale (style : NumberStyle) (scale : Fraction) (written : List SignedTerm) :
    (withScale style scale written).terms = written := by
  unfold withScale
  split
  · rfl
  · split <;> rfl

/-- A formula names what its sum names, in order. -/
theorem names_of_formula {formula : Formula} (result : sum.formula = .ok formula) :
    formula.terms.map SignedTerm.name = sum.terms.map WeightedTerm.name := by
  by_cases empty : sum.terms = []
  · rw [LinearSum.formula, empty] at result
    cases result
    rw [empty]
    rfl
  · rw [formula_of_nonempty empty] at result
    obtain ⟨scale?, -, scaled⟩ := Checked.bind_eq_ok_iff.mp result
    obtain ⟨written, writtenResult, done⟩ := Checked.bind_eq_ok_iff.mp scaled
    cases done
    rw [terms_withScale]
    exact names_of_scaledTerms writtenResult

/-- Every name in a formula is that of a term of the sum. -/
theorem exists_term_of_formula {formula : Formula} (result : sum.formula = .ok formula)
    {signed : SignedTerm} (member : signed ∈ formula.terms) :
    ∃ term ∈ sum.terms, term.name = signed.name := by
  have named : signed.name ∈ sum.terms.map WeightedTerm.name :=
    names_of_formula result ▸ List.mem_map_of_mem member
  exact List.mem_map.mp named

/-- Only the formula zero has no terms. -/
theorem terms_ne_nil_of_formula {formula : Formula} (result : sum.formula = .ok formula)
    (other : formula ≠ .zero) : formula.terms ≠ [] := by
  intro none
  have names := names_of_formula result
  rw [none, List.map_nil, eq_comm, List.map_eq_nil_iff] at names
  rw [LinearSum.formula, names] at result
  cases result
  exact other rfl

/-! ## Which sums have a formula -/

theorem signedTerm_ok (style : NumberStyle) (name : String) (reduced : weight.Reduced)
    (negatable : weight.Negatable) : ∃ written, signedTerm style weight name = .ok written := by
  obtain ⟨magnitude, result, -⟩ := reduced.abs_ok negatable
  unfold signedTerm
  rw [result]
  split
  · exact ⟨_, rfl⟩
  · split
    · exact ⟨_, rfl⟩
    · split <;> exact ⟨_, rfl⟩

theorem signedTerm_of_least (style : NumberStyle) (name : String) (least : ¬weight.Negatable) :
    signedTerm style weight name = .error .negateOverflow := by
  have word : weight.num = Int64.minValue := not_not.mp least
  have notOne : weight ≠ 1 := by
    rintro rfl
    cases word
  have notMinusOne : weight ≠ ⟨-1, 1⟩ := by
    rintro rfl
    cases word
  have negative : weight.isNegative = true := by
    rw [Fraction.isNegative, word]
    rfl
  unfold signedTerm
  rw [if_neg notOne, if_neg notMinusOne, if_pos negative, Fraction.abs_of_least least]
  rfl

/-- Taking magnitudes stops at a least word, or it tells whether all of them are the scale. -/
theorem allOfMagnitude_cases (scale : Fraction) (reduced : ∀ term ∈ terms, term.weight.Reduced) :
    (allOfMagnitude scale terms = .error .negateOverflow ∧
      ∃ term ∈ terms, ¬term.weight.Negatable) ∨
    allOfMagnitude scale terms = .ok false ∨
    (allOfMagnitude scale terms = .ok true ∧
      ∀ term ∈ terms, term.weight.Negatable ∧ |term.weight.value| = scale.value) := by
  induction terms with
  | nil => exact .inr (.inr ⟨rfl, fun _ absent => nomatch absent⟩)
  | cons term rest ih =>
      obtain ⟨first, others⟩ := List.forall_mem_cons.mp reduced
      unfold allOfMagnitude
      by_cases negatable : term.weight.Negatable
      · obtain ⟨magnitude, result, -, value⟩ := first.abs_ok negatable
        simp only [result, bind, Except.bind]
        by_cases same : magnitude = scale
        · rw [if_pos same]
          rcases ih others with ⟨failed, found, member, least⟩ | differs | ⟨shared, all⟩
          · exact .inl ⟨failed, found, List.mem_cons_of_mem _ member, least⟩
          · exact .inr (.inl differs)
          · refine .inr (.inr ⟨shared, List.forall_mem_cons.mpr ⟨⟨negatable, ?_⟩, all⟩⟩)
            rw [← value, same]
        · exact .inr (.inl (if_neg same))
      · rw [Fraction.abs_of_least negatable]
        exact .inl ⟨rfl, term, List.mem_cons_self, negatable⟩

/-- The scale divides every weight into a weight that can be written. -/
def Divides (scale : Fraction) (terms : List WeightedTerm) : Prop :=
  ∀ term ∈ terms, term.weight.Negatable → ∃ weight, term.weight.div scale = .ok weight ∧
    weight.Reduced ∧ weight.Negatable

theorem quotient_one (reduced : weight.Reduced) : weight.div 1 = .ok weight := by
  refine reduced.div_ok Fraction.reduced_one reduced ?_ ?_
  · rw [Fraction.value_one]
    exact one_ne_zero
  · rw [Fraction.value_one, div_one]

theorem divides_one (proper : ∀ term ∈ terms, term.Proper) : Divides 1 terms := by
  intro term member negatable
  have reduced := (proper term member).reduced
  exact ⟨term.weight, quotient_one reduced, reduced, negatable⟩

/-- Divided by its magnitude, a weight is one or minus one. -/
theorem divides_of_shared (scaleReduced : scale.Reduced) (positive : 0 < scale.value)
    (proper : ∀ term ∈ terms, term.Proper)
    (shared : ∀ term ∈ terms, |term.weight.value| = scale.value) : Divides scale terms := by
  intro term member _
  have reduced := (proper term member).reduced
  have nonzero := (proper term member).nonzero
  have magnitude := shared term member
  rcases lt_or_gt_of_ne nonzero with below | above
  · have value : term.weight.value / scale.value = Fraction.value ⟨-1, 1⟩ := by
      rw [← magnitude, abs_of_neg below, div_neg, div_self nonzero, Fraction.value_neg_one]
    exact ⟨⟨-1, 1⟩, reduced.div_ok scaleReduced (by decide) positive.ne' value, by decide,
      by decide⟩
  · have value : term.weight.value / scale.value = Fraction.value 1 := by
      rw [← magnitude, abs_of_pos above, div_self nonzero, Fraction.value_one]
    exact ⟨1, reduced.div_ok scaleReduced (by decide) positive.ne' value, by decide, by decide⟩

/-- A common scale is found, there is none, or a least word is in the way. -/
theorem commonScale?_cases (proper : ∀ term ∈ sum.terms, term.Proper) :
    (sum.commonScale? = .error .negateOverflow ∧ ∃ term ∈ sum.terms, ¬term.weight.Negatable) ∨
    sum.commonScale? = .ok none ∨
    ∃ scale, sum.commonScale? = .ok (some scale) ∧ Divides scale sum.terms ∧
      ∀ term ∈ sum.terms, term.weight.Negatable := by
  obtain ⟨terms, style⟩ := sum
  match terms with
  | [] => exact .inr (.inl rfl)
  | [_] => exact .inr (.inl rfl)
  | first :: second :: rest =>
      obtain ⟨firstProper, othersProper⟩ := List.forall_mem_cons.mp proper
      rw [commonScale?_of_two]
      by_cases negatable : first.weight.Negatable
      · obtain ⟨scale, magnitude, scaleReduced, value⟩ := firstProper.reduced.abs_ok negatable
        have othersReduced := fun term member => (othersProper term member).reduced
        rw [magnitude]
        rcases allOfMagnitude_cases scale othersReduced with
          ⟨failed, found, member, least⟩ | differs | ⟨shared, all⟩
        · refine .inl ⟨?_, found, List.mem_cons_of_mem _ member, least⟩
          simp only [bind, Except.bind, failed]
        · refine .inr (.inl ?_)
          simp only [bind, Except.bind, differs, Bool.false_eq_true, if_false]
        · have positive : 0 < scale.value := value ▸ abs_pos.mpr firstProper.nonzero
          refine .inr (.inr ⟨scale, ?_, divides_of_shared scaleReduced positive proper ?_, ?_⟩)
          · simp only [bind, Except.bind, shared, if_true]
          · exact List.forall_mem_cons.mpr ⟨value.symm, fun term member => (all term member).2⟩
          · exact List.forall_mem_cons.mpr ⟨negatable, fun term member => (all term member).1⟩
      · rw [Fraction.abs_of_least negatable]
        exact .inl ⟨rfl, first, List.mem_cons_self, negatable⟩

theorem scaledTerms_ok (divides : Divides scale sum.terms)
    (negatable : ∀ term ∈ sum.terms, term.weight.Negatable) :
    ∃ written, sum.scaledTerms scale = .ok written := by
  have each : ∀ term ∈ sum.terms, ∃ signed, (do
      let weight ← term.weight.div scale
      signedTerm sum.style weight term.name : Checked SignedTerm) = .ok signed ∧ True := by
    intro term member
    obtain ⟨weight, result, reduced, weightNegatable⟩ := divides term member (negatable term member)
    obtain ⟨signed, signedResult⟩ := signedTerm_ok sum.style term.name reduced weightNegatable
    exact ⟨signed, by rw [result]; exact signedResult, trivial⟩
  obtain ⟨written, result, -⟩ := Checked.mapM_ok each
  exact ⟨written, result⟩

theorem scaledTerms_of_least (proper : ∀ term ∈ sum.terms, term.Proper)
    (least : ∃ term ∈ sum.terms, ¬term.weight.Negatable) :
    sum.scaledTerms 1 = .error .negateOverflow := by
  refine Checked.mapM_eq_error_of_mem ?_ ?_
  · intro term member other failed
    rw [quotient_one (proper term member).reduced] at failed
    by_cases negatable : term.weight.Negatable
    · obtain ⟨signed, result⟩ :=
        signedTerm_ok sum.style term.name (proper term member).reduced negatable
      cases result.symm.trans failed
    · cases (signedTerm_of_least sum.style term.name negatable).symm.trans failed
      rfl
  · obtain ⟨term, member, leastWeight⟩ := least
    refine ⟨term, member, ?_⟩
    rw [quotient_one (proper term member).reduced]
    exact signedTerm_of_least sum.style term.name leastWeight

/-- A sum whose weights can be negated has a formula. -/
theorem formula_ok (proper : ∀ term ∈ sum.terms, term.Proper)
    (negatable : ∀ term ∈ sum.terms, term.weight.Negatable) :
    ∃ formula, sum.formula = .ok formula := by
  by_cases nonempty : sum.terms = []
  · refine ⟨.zero, ?_⟩
    rw [formula, nonempty]
    rfl
  have scaled {scale? : Option Fraction} (found : sum.commonScale? = .ok scale?)
      (divides : Divides (scale?.getD 1) sum.terms) : ∃ formula, sum.formula = .ok formula := by
    obtain ⟨written, result⟩ := scaledTerms_ok divides negatable
    refine ⟨withScale sum.style (scale?.getD 1) written, ?_⟩
    rw [formula_of_nonempty nonempty, found]
    simp only [bind, Except.bind, result]
  rcases commonScale?_cases proper with ⟨-, term, member, least⟩ | none | ⟨scale, found, divides, -⟩
  · exact absurd (negatable term member) least
  · exact scaled none (divides_one proper)
  · exact scaled found divides

/-- A sum with a least word among its weights has no formula. -/
theorem formula_of_least (proper : ∀ term ∈ sum.terms, term.Proper)
    (least : ∃ term ∈ sum.terms, ¬term.weight.Negatable) :
    sum.formula = .error .negateOverflow := by
  have nonempty : sum.terms ≠ [] := by
    obtain ⟨term, member, -⟩ := least
    exact List.ne_nil_of_mem member
  rw [formula_of_nonempty nonempty]
  rcases commonScale?_cases proper with ⟨failed, -⟩ | none | ⟨scale, -, -, negatable⟩
  · rw [failed]
    rfl
  · rw [none]
    simp only [bind, Except.bind, Option.getD_none, scaledTerms_of_least proper least]
  · obtain ⟨term, member, leastWeight⟩ := least
    exact absurd (negatable term member) leastWeight

/-- There is a formula, or a fault tells of a least word. -/
theorem formula_cases (proper : ∀ term ∈ sum.terms, term.Proper) :
    (∃ formula, sum.formula = .ok formula) ∨
    (sum.formula = .error .negateOverflow ∧ ∃ term ∈ sum.terms, ¬term.weight.Negatable) := by
  by_cases negatable : ∀ term ∈ sum.terms, term.weight.Negatable
  · exact .inl (formula_ok proper negatable)
  · push Not at negatable
    exact .inr ⟨formula_of_least proper negatable, negatable⟩

section Kept

variable {entries : List (Fraction × String)} {term : WeightedTerm}

/-- The terms that weighted names leave in a sum. -/
def kept (entries : List (Fraction × String)) : List WeightedTerm :=
  (entries.filter fun entry => !entry.1.isZero).map fun entry => ⟨entry.1, entry.2⟩

theorem kept_append (earlier later : List (Fraction × String)) :
    kept (earlier ++ later) = kept earlier ++ kept later := by
  simp [kept]

theorem mem_kept (member : term ∈ kept entries) :
    (term.weight, term.name) ∈ entries ∧ term.weight.isZero = false := by
  obtain ⟨⟨weight, name⟩, inside, rfl⟩ := List.mem_map.mp member
  obtain ⟨entry, nonzero⟩ := List.mem_filter.mp inside
  exact ⟨entry, by simpa using nonzero⟩

/-- Kept weights in lowest terms are proper. -/
theorem proper_of_kept (reduced : ∀ entry ∈ entries, entry.1.Reduced) :
    ∀ term ∈ kept entries, term.Proper := by
  intro term member
  obtain ⟨inside, nonzero⟩ := mem_kept member
  exact ⟨reduced _ inside, Fraction.value_ne_zero (reduced _ inside).isNumber nonzero⟩

/-- Zero weights are left out without a change of the value. -/
theorem sum_kept (point : String → ℚ) (entries : List (Fraction × String)) :
    ((kept entries).map fun term => term.weight.value * point term.name).sum =
      (entries.map fun entry => entry.1.value * point entry.2).sum := by
  unfold kept
  induction entries with
  | nil => rfl
  | cons entry rest ih =>
      cases zero : entry.1.isZero with
      | false => simpa [zero] using ih
      | true =>
          have num : entry.1.num = 0 := beq_iff_eq.mp zero
          have none : entry.1.value = 0 := by simp [Fraction.value, num]
          simpa [zero, none] using ih

theorem terms_add (sum : LinearSum) (weight : Fraction) (name : String) :
    (sum.add weight name).terms = sum.terms ++ kept [(weight, name)] := by
  unfold add
  cases zero : weight.isZero <;> simp [kept, zero]

theorem terms_ofPairs (weights : List Fraction) (names : List String) (style : NumberStyle) :
    (ofPairs weights names style).terms = kept (weights.zip names) := by
  have run (pairs : List (Fraction × String)) (sum : LinearSum) :
      (pairs.foldl (fun sum pair => sum.add pair.1 pair.2) sum).terms =
        sum.terms ++ kept pairs := by
    induction pairs generalizing sum with
    | nil => simp [kept]
    | cons pair rest ih =>
        rw [List.foldl_cons, ih, terms_add, List.append_assoc, ← kept_append,
          List.singleton_append]
  exact run _ _

theorem value_ofPairs (weights : List Fraction) (names : List String) (style : NumberStyle)
    (point : String → ℚ) :
    (ofPairs weights names style).value point =
      ((weights.zip names).map fun pair => pair.1.value * point pair.2).sum := by
  rw [value, terms_ofPairs, sum_kept]

end Kept

end LinearSum

end CurveForge
