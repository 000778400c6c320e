import Mathlib
import CurveForge.Formula
import CurveForge.Proofs.Formula.LinearSum
import CurveForge.Proofs.Matrix.Value

/-!
# Formulas of matrix rows

The formulas of a matrix have, at the values of the named points, the values of
the matrix applied to those values. For entries in lowest terms they exist exactly
if no entry that is not zero has the least word as its numerator.
-/

namespace CurveForge

open Reading

namespace Reading

def valueAt (names : List String) (values : List ℚ) (name : String) : ℚ :=
  ((names.zip values).lookup name).getD 0

/-- Names in an assignment are bound. -/
theorem assign_of_mem {names : List String} {values : List ℚ} (same : values.length = names.length)
    {name : String} (member : name ∈ names) :
    assign names values name = some (.scalar (valueAt names values name)) := by
  have bound : ∃ value, (names.zip values).lookup name = some value := by
    induction names generalizing values with
    | nil => cases member
    | cons first rest ih =>
        cases values with
        | nil => cases same
        | cons value values =>
            by_cases here : name = first
            · exact ⟨value, by simp [here]⟩
            · have unequal : (name == first) = false := beq_eq_false_iff_ne.mpr here
              have later := (List.mem_cons.mp member).resolve_left here
              obtain ⟨found, result⟩ := ih (Nat.succ.inj same) later
              exact ⟨found, by simpa [List.lookup_cons, unequal] using result⟩
  obtain ⟨value, found⟩ := bound
  rw [assign, valueAt, found]
  rfl

/-- Different names take the values in order. -/
theorem map_valueAt {names : List String} {values : List ℚ} (same : values.length = names.length)
    (nodup : names.Nodup) : names.map (valueAt names values) = values := by
  induction names generalizing values with
  | nil => exact (List.length_eq_zero_iff.mp same).symm
  | cons first rest ih =>
      cases values with
      | nil => cases same
      | cons value values =>
          obtain ⟨once, restNodup⟩ := List.nodup_cons.mp nodup
          have others : rest.map (valueAt (first :: rest) (value :: values)) =
              rest.map (valueAt rest values) := by
            apply List.map_congr_left
            intro name member
            have differ : (name == first) = false :=
              beq_eq_false_iff_ne.mpr fun again => once (again ▸ member)
            simp [valueAt, List.lookup_cons, differ]
          rw [List.map_cons, others, ih (Nat.succ.inj same) restNodup]
          simp [valueAt]

def evaluateAll (store : Store ℚ) (texts : List String) : Option (List ℚ) :=
  texts.mapM (evaluate store)

theorem evaluateAll_of_forall₂ {store : Store ℚ} {texts : List String} {values : List ℚ}
    (each : List.Forall₂ (fun text value => evaluate store text = some value) texts values) :
    evaluateAll store texts = some values := by
  unfold evaluateAll
  induction each with
  | nil => rfl
  | cons first _ ih =>
      rw [List.mapM_cons, first, ih]
      rfl

end Reading

namespace SquareMatrix

/-- The matrix applied to a column of rational numbers. -/
def applied (m : SquareMatrix) (column : List ℚ) : List ℚ :=
  m.rows.map fun row => ((row.zip column).map fun pair => pair.1.value * pair.2).sum

theorem length_rows (m : SquareMatrix) : m.rows.length = m.size := by
  simp [rows, Grid.toLists]

theorem length_applied (m : SquareMatrix) (column : List ℚ) :
    (m.applied column).length = m.size := by
  rw [applied, List.length_map, length_rows]

theorem length_of_mem_rows {m : SquareMatrix} {row : List Fraction} (member : row ∈ m.rows) :
    row.length = m.size := by
  obtain ⟨vector, -, rfl⟩ := List.mem_map.mp member
  exact vector.length_toList

theorem rows_eq_ofFn {n : Nat} (grid : Grid Fraction n) :
    rows ⟨n, grid⟩ = List.ofFn fun r => List.ofFn fun c => grid.entry r c := by
  have toList_eq {α : Type} {k : Nat} (vector : Vector α k) :
      vector.toList = List.ofFn vector.get := by
    apply List.ext_getElem (by simp)
    intro i _ _
    simp [Vector.get_eq_getElem]
  rw [rows, Grid.toLists, toList_eq, List.map_ofFn]
  exact congrArg List.ofFn (funext fun r => toList_eq _)

theorem mem_rows_iff {m : SquareMatrix} {weight : Fraction} :
    (∃ row ∈ m.rows, weight ∈ row) ↔ ∃ r c, m.grid.entry r c = weight := by
  rw [rows_eq_ofFn]
  simp [List.mem_ofFn]

theorem reduced_of_mem {m : SquareMatrix} (reduced : m.Reduced) {row : List Fraction}
    (member : row ∈ m.rows) {weight : Fraction} (inside : weight ∈ row) : weight.Reduced := by
  obtain ⟨r, c, rfl⟩ := mem_rows_iff.mp ⟨row, member, inside⟩
  exact reduced r c

/-- As lists of entries, a product with a column is the product of the matrix with a vector. -/
theorem applied_ofFn {n : Nat} (grid : Grid Fraction n) (column : Fin n → ℚ) :
    applied ⟨n, grid⟩ (List.ofFn column) = List.ofFn (grid.values.mulVec column) := by
  have zip_ofFn (weights : Fin n → Fraction) :
      (List.ofFn weights).zip (List.ofFn column) = List.ofFn fun c => (weights c, column c) := by
    apply List.ext_getElem (by simp)
    intro i _ _
    simp
  rw [applied, rows_eq_ofFn, List.map_ofFn]
  refine congrArg List.ofFn (funext ?_)
  intro r
  rw [Function.comp_apply, zip_ofFn, List.map_ofFn, List.sum_ofFn]
  rfl

variable {m : SquareMatrix} {names : List String} {style : NumberStyle} {formulas : List Formula}

def Negatable (m : SquareMatrix) : Prop := ∀ r c, (m.grid.entry r c).Negatable

/-- The sum of a row pairs entries of the row with names. -/
theorem mem_of_row {row : List Fraction} {term : WeightedTerm}
    (member : term ∈ (LinearSum.ofPairs row names style).terms) :
    term.weight ∈ row ∧ term.name ∈ names ∧ term.weight.isZero = false := by
  rw [LinearSum.terms_ofPairs] at member
  obtain ⟨zipped, nonzero⟩ := LinearSum.mem_kept member
  obtain ⟨weightMember, nameMember⟩ := List.of_mem_zip zipped
  exact ⟨weightMember, nameMember, nonzero⟩

/-- The formulas of a matrix name nothing else than the given names. -/
theorem name_mem_of_formulas {formulas : List Formula}
    (written : m.formulas names style = .ok formulas) {formula : Formula}
    (member : formula ∈ formulas) {term : SignedTerm} (inside : term ∈ formula.terms) :
    term.name ∈ names := by
  obtain ⟨row, -, result⟩ := exists_of_forall₂_of_mem (Checked.mapM_eq_ok_iff.mp written) member
  obtain ⟨weighted, kept, same⟩ := LinearSum.exists_term_of_formula result inside
  exact same ▸ (mem_of_row kept).2.1

theorem proper_of_row (names : List String) (style : NumberStyle) (reduced : m.Reduced)
    {row : List Fraction} (member : row ∈ m.rows) :
    ∀ term ∈ (LinearSum.ofPairs row names style).terms, term.Proper := by
  rw [LinearSum.terms_ofPairs]
  apply LinearSum.proper_of_kept
  intro pair zipped
  exact reduced_of_mem reduced member (List.of_mem_zip zipped).1

theorem regular_of_row (names : List String) (style : NumberStyle) (numeric : m.Numeric)
    {row : List Fraction} (member : row ∈ m.rows) :
    ∀ term ∈ (LinearSum.ofPairs row names style).terms, term.Regular := by
  intro term inside
  obtain ⟨weight, -, nonzero⟩ := mem_of_row inside
  obtain ⟨r, c, entry⟩ := mem_rows_iff.mp ⟨row, member, weight⟩
  exact ⟨entry ▸ numeric r c, nonzero⟩

/-- Each formula is the one of its row. -/
theorem renders_of_formulas (numeric : m.Numeric) (result : m.formulas names style = .ok formulas) :
    List.Forall₂ (fun row formula => (LinearSum.ofPairs row names style).Renders formula)
      m.rows formulas :=
  (Checked.returns_mapM fun _ member =>
    LinearSum.formula_returns (regular_of_row names style numeric member)).of_eq_ok result

theorem formulas_render (reduced : m.Reduced) (result : m.formulas names style = .ok formulas) :
    List.Forall₂ (fun row formula => (LinearSum.ofPairs row names style).Renders formula)
      m.rows formulas :=
  renders_of_formulas reduced.numeric result

/-- The only fault of the formulas is a least word among the entries. -/
theorem formulas_eq_error {fault : Fault} (reduced : m.Reduced)
    (failed : m.formulas names style = .error fault) :
    fault = .negateOverflow ∧ ¬m.Negatable := by
  obtain ⟨row, member, reason⟩ := Checked.mapM_eq_error failed
  rcases LinearSum.formula_cases (proper_of_row names style reduced member)
    with ⟨found, foundResult⟩ | ⟨failed, term, inside, least⟩
  · cases foundResult.symm.trans reason
  · cases failed.symm.trans reason
    refine ⟨rfl, ?_⟩
    intro all
    obtain ⟨r, c, entry⟩ := mem_rows_iff.mp ⟨row, member, (mem_of_row inside).1⟩
    exact least (entry ▸ all r c)

/-- The formulas have the values of the matrix applied to the values of the points. -/
theorem evaluate_formulas (numeric : m.Numeric)
    (identifiers : ∀ name ∈ names, isIdentifier name = true) (nodup : names.Nodup)
    (result : m.formulas names style = .ok formulas) {values : List ℚ}
    (same : values.length = names.length) :
    evaluateAll (assign names values) (formulas.map Formula.text) = some (m.applied values) := by
  refine evaluateAll_of_forall₂ ?_
  rw [applied, List.forall₂_map_left_iff, List.forall₂_map_right_iff]
  apply (renders_of_formulas numeric result).flip.imp
  intro formula row renders
  have value : (LinearSum.ofPairs row names style).value (valueAt names values) =
      ((row.zip values).map fun pair => pair.1.value * pair.2).sum := by
    conv_rhs => rw [← map_valueAt same nodup, List.zip_map_right, List.map_map]
    exact LinearSum.value_ofPairs row names style _
  rw [← value]
  refine renders.evaluate_text (fun term member => identifiers _ (mem_of_row member).2.1) ?_
  intro name member
  obtain ⟨term, inside, rfl⟩ := List.mem_map.mp member
  exact assign_of_mem same (mem_of_row inside).2.1

theorem formulas_evaluate (reduced : m.Reduced)
    (identifiers : ∀ name ∈ names, isIdentifier name = true) (nodup : names.Nodup)
    (result : m.formulas names style = .ok formulas) {values : List ℚ}
    (same : values.length = names.length) :
    evaluateAll (assign names values) (formulas.map Formula.text) = some (m.applied values) :=
  evaluate_formulas reduced.numeric identifiers nodup result same

end SquareMatrix

/-- The pattern and the formulas of a matrix are drawn from it one after the other. -/
theorem PointFormulas.parts_of_ofMatrix {m : SquareMatrix} {names : List String}
    {p : PointFormulas} (drawn : ofMatrix m names = .ok p) :
    usedNames m names = .ok p.pattern ∧ m.formulas names .float = .ok p.formulas := by
  obtain ⟨pattern, used, rest⟩ := Checked.bind_eq_ok_iff.mp drawn
  obtain ⟨formulas, written, rest⟩ := Checked.bind_eq_ok_iff.mp rest
  split at rest
  · cases rest
  · cases rest
    exact ⟨used, written⟩

end CurveForge
