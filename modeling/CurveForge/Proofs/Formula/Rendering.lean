import Mathlib
import CurveForge.Proofs.Formula.LinearSum

/-!
# The written form of a collected sum

A sum collects weighted names, from pairs or one by one; a name may come again, and
weights of zero leave no trace. Unless a least word among its weights stands in the
way, its written form is read back as an expression whose value is the whole sum,
whatever the names stand for.
-/

namespace CurveForge.LinearSum

open Reading

variable {style : NumberStyle} {entries : List (Fraction × String)} {sum : LinearSum}

/-- What a sum has collected: it starts empty or from pairs, and takes up one weighted name after
another. -/
inductive Collects (style : NumberStyle) : List (Fraction × String) → LinearSum → Prop where
  | empty : Collects style [] (empty style)
  | pairs (weights : List Fraction) (names : List String) :
      Collects style (weights.zip names) (ofPairs weights names style)
  | add {entries : List (Fraction × String)} {sum : LinearSum}
      (earlier : Collects style entries sum) (weight : Fraction) (name : String) :
      Collects style (entries ++ [(weight, name)]) (sum.add weight name)

theorem Collects.terms_eq (collects : Collects style entries sum) : sum.terms = kept entries := by
  induction collects with
  | empty => rfl
  | pairs weights names => exact terms_ofPairs weights names style
  | add _ weight name ih => rw [terms_add, ih, kept_append]

/-- The written form fails exactly at a least word among the stored weights. -/
theorem render_fails_iff (proper : ∀ term ∈ sum.terms, term.Proper) :
    (∃ fault, sum.render = .error fault) ↔
      ∃ term ∈ sum.terms, term.weight.num = Int64.minValue := by
  constructor
  · rintro ⟨fault, failed⟩
    rcases formula_cases proper with ⟨formula, result⟩ | ⟨-, term, member, least⟩
    · rw [render, result] at failed
      cases failed
    · exact ⟨term, member, not_not.mp least⟩
  · rintro ⟨term, member, least⟩
    refine ⟨.negateOverflow, ?_⟩
    rw [render, formula_of_least proper ⟨term, member, not_not.mpr least⟩]
    rfl

/-- The written form of a sum fails exactly at a least word among the stored weights. Otherwise it
is read as an expression with the exact value of all that was collected. -/
theorem render_collected (collects : Collects style entries sum)
    (reduced : ∀ entry ∈ entries, entry.1.Reduced)
    (identifiers : ∀ entry ∈ entries, isIdentifier entry.2 = true) :
    ((∃ fault, sum.render = .error fault) ↔
      ∃ term ∈ sum.terms, term.weight.num = Int64.minValue) ∧
    ∀ text, sum.render = .ok text → ∃ expression, parse text = some expression ∧
      ∀ point : String → ℚ,
        expression.evaluate .exact (fun name => some (.scalar (point name))) =
          some (entries.map fun entry => entry.1.value * point entry.2).sum := by
  have proper : ∀ term ∈ sum.terms, term.Proper := by
    rw [collects.terms_eq]
    exact proper_of_kept reduced
  refine ⟨render_fails_iff proper, ?_⟩
  intro text rendered
  obtain ⟨formula, result, done⟩ := Checked.bind_eq_ok_iff.mp rendered
  cases done
  have renders : sum.Renders formula :=
    (formula_returns fun term member => (proper term member).regular).of_eq_ok result
  have readable : formula.Readable := by
    apply renders.readable
    intro term member
    rw [collects.terms_eq] at member
    exact identifiers _ (mem_kept member).1
  refine ⟨formula.expression, Formula.parse_text readable, fun point => ?_⟩
  have bound : ∀ term ∈ formula.terms,
      term.Bound (fun name => some (.scalar (point name))) point := fun _ _ => rfl
  rw [Formula.evaluate_expression readable bound, renders.value point, value, collects.terms_eq,
    sum_kept]

def repeated : LinearSum :=
  ((ofPairs [⟨2, 3⟩, 0, ⟨-2, 3⟩] ["a", "c", "b", "d"] .float).add 0 "b").add ⟨2, 3⟩ "a"

/-- Two thirds are taken out of three terms; the zero weights are part of the sum all the same. -/
theorem render_collected_repeated :
    repeated.render = .ok "(2.0/3.0)*(a-b+a)" ∧
      ∃ expression, parse "(2.0/3.0)*(a-b+a)" = some expression ∧ ∀ point : String → ℚ,
        expression.evaluate .exact (fun name => some (.scalar (point name))) =
          some (2 / 3 * point "a" + (0 * point "c" + (-2 / 3 * point "b" +
            (0 * point "b" + (2 / 3 * point "a" + 0))))) := by
  have collects : Collects .float [(⟨2, 3⟩, "a"), (0, "c"), (⟨-2, 3⟩, "b"), (0, "b"), (⟨2, 3⟩, "a")]
      repeated :=
    ((Collects.pairs [⟨2, 3⟩, 0, ⟨-2, 3⟩] ["a", "c", "b", "d"]).add 0 "b").add ⟨2, 3⟩ "a"
  have rendered : repeated.render = .ok "(2.0/3.0)*(a-b+a)" := by decide +kernel
  have twoThirds : Fraction.value ⟨2, 3⟩ = 2 / 3 := by decide +kernel
  have opposite : Fraction.value ⟨-2, 3⟩ = -2 / 3 := by decide +kernel
  obtain ⟨expression, read, evaluates⟩ :=
    (render_collected collects (by decide +kernel) (by decide +kernel)).2 _ rendered
  refine ⟨rendered, expression, read, fun point => ?_⟩
  simpa only [List.map_cons, List.map_nil, List.sum_cons, List.sum_nil, twoThirds, opposite,
    Fraction.value_zero] using evaluates point

end CurveForge.LinearSum
