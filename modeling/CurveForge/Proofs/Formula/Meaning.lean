import Mathlib
import CurveForge.Proofs.Reading.Parsing

/-!
# The value of a formula

A formula is a weighted sum of its names. Reading its written form and evaluating
the expression gives that sum, for any values of the names.
-/

namespace CurveForge

open Reading

namespace SignedTerm

def coefficient (term : SignedTerm) : ℚ :=
  (if term.negative then -1 else 1) * (term.factor.elim 1 Literal.value)

def value (point : String → ℚ) (term : SignedTerm) : ℚ := term.coefficient * point term.name

end SignedTerm

/-- The weighted sum that a formula stands for. -/
def Formula.value (point : String → ℚ) : Formula → ℚ
  | zero => 0
  | sum terms => (terms.map (SignedTerm.value point)).sum
  | divided terms divisor => (terms.map (SignedTerm.value point)).sum / divisor.value
  | multiplied factor terms => factor.value * (terms.map (SignedTerm.value point)).sum

variable {store : Store ℚ} {point : String → ℚ}

theorem evaluate_wordExpression (store : Store ℚ) (value : Int64) :
    (wordExpression value).evaluate .exact store = some (value.toInt : ℚ) := by
  unfold wordExpression
  cases value.toInt with
  | ofNat n => rfl
  | negSucc n =>
      rw [Int.cast_negSucc]
      rfl

theorem Literal.evaluate_expression (store : Store ℚ) {literal : Literal}
    (hasValue : literal.HasValue) :
    literal.expression.evaluate .exact store = some literal.value := by
  cases literal with
  | whole style value => exact evaluate_wordExpression store value
  | quotient num den =>
      have nonzero : (den.toInt : ℚ) ≠ 0 := Int.cast_ne_zero.mpr hasValue
      rw [expression, Expression.evaluate, evaluate_wordExpression, evaluate_wordExpression]
      exact if_neg nonzero

namespace SignedTerm

variable {term : SignedTerm} {terms : List SignedTerm}

/-- The name of a term is bound to its value. -/
def Bound (store : Store ℚ) (point : String → ℚ) (term : SignedTerm) : Prop :=
  store term.name = some (.scalar (point term.name))

theorem evaluate_variable (bound : term.Bound store point) :
    (Expression.variable term.name).evaluate .exact store = some (point term.name) := by
  rw [Expression.evaluate, bound, Option.bind_some, Value.scalar?]

theorem evaluate_body (readable : term.Readable) (bound : term.Bound store point) :
    term.body.evaluate .exact store =
      some (term.factor.elim 1 Literal.value * point term.name) := by
  have name := evaluate_variable bound
  unfold body
  cases factor : term.factor with
  | none => rw [name, Option.elim_none, one_mul]
  | some literal =>
      have number := literal.evaluate_expression store (readable.hasValue literal factor)
      rw [Expression.evaluate, number, name]
      rfl

theorem evaluate_leading (readable : term.Readable) (bound : term.Bound store point) :
    term.leading.evaluate .exact store = some (term.value point) := by
  have name := evaluate_variable bound
  unfold leading value coefficient
  cases negative : term.negative with
  | false =>
      rw [if_neg Bool.false_ne_true, evaluate_body readable bound, if_neg Bool.false_ne_true,
        one_mul]
  | true =>
      rw [if_pos rfl, if_pos rfl]
      cases factor : term.factor with
      | none =>
          rw [Expression.evaluate, name, Option.elim_none, mul_one, neg_one_mul]
          rfl
      | some literal =>
          have number := literal.evaluate_expression store (readable.hasValue literal factor)
          have opposite : literal.expression.negated.evaluate .exact store =
              some (-literal.value) := by
            rw [Expression.evaluate, number]
            rfl
          rw [Expression.evaluate, opposite, name, Option.elim_some, neg_one_mul]
          rfl

/-- A term behind others adds its value to theirs. -/
theorem evaluate_after (readable : term.Readable) (bound : term.Bound store point)
    {left : Expression} {total : ℚ} (earlier : left.evaluate .exact store = some total) :
    (after left term).evaluate .exact store = some (total + term.value point) := by
  have body := evaluate_body readable bound
  unfold after value coefficient
  cases negative : term.negative with
  | false =>
      rw [if_neg Bool.false_ne_true, if_neg Bool.false_ne_true, Expression.evaluate, earlier, body,
        one_mul]
      rfl
  | true =>
      rw [if_pos rfl, if_pos rfl, Expression.evaluate, earlier, body, neg_mul, neg_mul, one_mul,
        ← sub_eq_add_neg]
      rfl

theorem evaluate_foldl_after (readable : ∀ term ∈ terms, term.Readable)
    (bound : ∀ term ∈ terms, term.Bound store point) {left : Expression} {total : ℚ}
    (earlier : left.evaluate .exact store = some total) :
    (terms.foldl after left).evaluate .exact store =
      some (total + (terms.map (value point)).sum) := by
  induction terms generalizing left total with
  | nil => simpa using earlier
  | cons term terms ih =>
      obtain ⟨firstReadable, othersReadable⟩ := List.forall_mem_cons.mp readable
      obtain ⟨firstBound, othersBound⟩ := List.forall_mem_cons.mp bound
      rw [List.foldl_cons, ih othersReadable othersBound
        (evaluate_after firstReadable firstBound earlier), List.map_cons, List.sum_cons, add_assoc]

theorem evaluate_row (readable : ∀ term ∈ terms, term.Readable)
    (bound : ∀ term ∈ terms, term.Bound store point) :
    (row terms).evaluate .exact store = some (terms.map (value point)).sum := by
  cases terms with
  | nil => rfl
  | cons first others =>
      obtain ⟨firstReadable, othersReadable⟩ := List.forall_mem_cons.mp readable
      obtain ⟨firstBound, othersBound⟩ := List.forall_mem_cons.mp bound
      rw [row, List.map_cons, List.sum_cons]
      exact evaluate_foldl_after othersReadable othersBound
        (evaluate_leading firstReadable firstBound)

end SignedTerm

namespace Formula

variable {formula : Formula}

theorem evaluate_expression (readable : formula.Readable)
    (bound : ∀ term ∈ formula.terms, term.Bound store point) :
    formula.expression.evaluate .exact store = some (formula.value point) := by
  cases formula with
  | zero => rfl
  | sum terms => exact SignedTerm.evaluate_row readable.2 bound
  | divided terms divisor =>
      have row := SignedTerm.evaluate_row readable.2.1 bound
      have number := divisor.evaluate_expression store readable.2.2.1
      rw [expression, Expression.evaluate, row, number]
      exact if_neg readable.2.2.2
  | multiplied factor terms =>
      have row := SignedTerm.evaluate_row readable.2.1 bound
      have number := factor.evaluate_expression store readable.2.2
      rw [expression, Expression.evaluate, number, row]
      rfl

/-- The written form of a formula has the value of the formula. -/
theorem evaluate_text (readable : formula.Readable)
    (bound : ∀ term ∈ formula.terms, term.Bound store point) :
    evaluate store formula.text = some (formula.value point) := by
  rw [evaluate, parse_text readable, Option.bind_some, evaluate_expression readable bound]

end Formula

end CurveForge
