import CurveForge.Proofs.Document.Arguments

/-!
# Decimal numbers in emitted rows

In the float style the literals of a formula are decimal numbers, wherever they stand:
before a name, as a divisor, or as a factor of the whole sum. The sum of no terms has
no literal and is written as a bare zero in this style too, and so is every row of a
matrix that is zero.
-/

namespace CurveForge

open Reading

namespace LinearSum

variable {entries : List (Fraction × String)} {sum : LinearSum} {style : NumberStyle}

theorem style_add (sum : LinearSum) (weight : Fraction) (name : String) :
    (sum.add weight name).style = sum.style := by
  unfold LinearSum.add
  split <;> rfl

theorem style_ofPairs (weights : List Fraction) (names : List String) (style : NumberStyle) :
    (ofPairs weights names style).style = style := by
  have run (pairs : List (Fraction × String)) (sum : LinearSum) :
      (pairs.foldl (fun sum pair => sum.add pair.1 pair.2) sum).style = sum.style := by
    induction pairs generalizing sum with
    | nil => rfl
    | cons pair rest ih => rw [List.foldl_cons, ih, style_add]
  exact run _ _

theorem Collects.style_eq (collects : Collects style entries sum) : sum.style = style := by
  induction collects with
  | empty => rfl
  | pairs weights names => exact style_ofPairs weights names style
  | add _ weight name ih => rw [style_add, ih]

theorem kept_ne_nil_iff : kept entries ≠ [] ↔ ∃ entry ∈ entries, entry.1.isZero = false := by
  constructor
  · intro nonempty
    obtain ⟨term, member⟩ := List.exists_mem_of_ne_nil _ nonempty
    obtain ⟨inside, nonzero⟩ := mem_kept_iff.mp member
    exact ⟨_, inside, nonzero⟩
  · rintro ⟨entry, inside, nonzero⟩
    have member : (⟨entry.1, entry.2⟩ : WeightedTerm) ∈ kept entries :=
      mem_kept_iff.mpr ⟨inside, nonzero⟩
    exact List.ne_nil_of_mem member

theorem render_of_zeros (collects : Collects style entries sum)
    (zeros : ∀ entry ∈ entries, entry.1.isZero = true) : sum.render = .ok "0" := by
  have none : sum.terms = [] := by
    by_contra some
    rw [collects.terms_eq] at some
    obtain ⟨entry, inside, nonzero⟩ := kept_ne_nil_iff.mp some
    cases nonzero.symm.trans (zeros entry inside)
  rw [render, LinearSum.formula, none]
  rfl

theorem hasOnlyDecimals_render_iff (collects : Collects .float entries sum)
    (identifiers : ∀ entry ∈ entries, isIdentifier entry.2 = true) {text : String}
    (rendered : sum.render = .ok text) :
    HasOnlyDecimals text ↔ ∃ entry ∈ entries, entry.1.isZero = false := by
  obtain ⟨formula, result, done⟩ := Checked.bind_eq_ok_iff.mp rendered
  cases done
  have named : ∀ term ∈ sum.terms, isIdentifier term.name = true := by
    intro term member
    rw [collects.terms_eq] at member
    exact identifiers _ (mem_kept member).1
  rw [hasOnlyDecimals_formula_iff result named collects.style_eq, collects.terms_eq,
    kept_ne_nil_iff]

end LinearSum

/-- A written row has only decimal numbers exactly if the row of the matrix is not zero. -/
def DecimalUnlessZero (m : SquareMatrix) (rows : List String) : Prop :=
  List.Forall₂ (fun weights row =>
    HasOnlyDecimals row ↔ ∃ weight ∈ weights, weight.isZero = false) m.rows rows

theorem SquareMatrix.decimalUnlessZero {m : SquareMatrix} {names : List String}
    {formulas : List Formula} (written : m.formulas names .float = .ok formulas)
    (same : names.length = m.size) (identifiers : ∀ name ∈ names, isIdentifier name = true) :
    DecimalUnlessZero m (formulas.map Formula.text) := by
  have each := (List.forall₂_and_left _ _).mpr
    ⟨fun row listed => listed, Checked.mapM_eq_ok_iff.mp written⟩
  rw [DecimalUnlessZero, List.forall₂_map_right_iff]
  apply each.imp
  rintro row formula ⟨listed, result⟩
  have width : row.length = names.length := (length_of_mem_rows listed).trans same.symm
  have rendered : (LinearSum.ofPairs row names .float).render = .ok formula.text := by
    rw [LinearSum.render, result]
    rfl
  have named : ∀ entry ∈ row.zip names, isIdentifier entry.2 = true := fun entry member =>
    identifiers _ (List.of_mem_zip member).2
  rw [LinearSum.hasOnlyDecimals_render_iff (.pairs row names) named rendered]
  constructor
  · rintro ⟨entry, member, nonzero⟩
    exact ⟨entry.1, (List.of_mem_zip member).1, nonzero⟩
  · rintro ⟨weight, member, nonzero⟩
    rw [← List.map_fst_zip width.le] at member
    obtain ⟨entry, inside, first⟩ := List.mem_map.mp member
    exact ⟨entry, inside, first ▸ nonzero⟩

open Blueprint

/-- The rows that a document of the family passes to constructors have only decimal numbers, apart
from rows of zeros. -/
structure DecimalRows (catalog : Catalog) (f : Family) : Prop where
  curve : ∃ rows, polynomialRows f .float = .ok rows ∧ DecimalUnlessZero f.matrix rows
  conversions : ∀ target ∈ conversionTargets catalog f, ∃ matrix rows,
    f.matrix.conversion target.matrix = pure matrix ∧
    conversionRows f target .float = pure rows ∧ DecimalUnlessZero matrix rows

theorem decimalRows_of_generateType {catalog : Catalog} {f : Family} {number : Nat}
    {document : Document} (identifiers : ∀ name ∈ f.pointNames, isIdentifier name = true)
    (generated : (generateType catalog f number).run = .ok (.ok document)) :
    DecimalRows catalog f := by
  obtain ⟨b, describes, fits, -⟩ := describes_of_generateType generated
  have width : f.pointNames.length = f.matrix.size := fits.name_count.trans fits.matrix_size.symm
  constructor
  · have written := (PointFormulas.parts_of_ofMatrix describes.curve).2
    exact ⟨_, polynomialRows_eq_ok_iff.mpr ⟨_, written, rfl⟩,
      SquareMatrix.decimalUnlessZero written width identifiers⟩
  · intro target listed
    obtain ⟨c, -, converted⟩ := describes.exists_conversion listed
    obtain ⟨-, matrix, computed, drawn⟩ := parts_of_conversionTo converted
    have written := (PointFormulas.parts_of_ofMatrix drawn).2
    have size : f.pointNames.length = matrix.size :=
      width.trans (SquareMatrix.size_of_conversion computed).symm
    exact ⟨matrix, _, computed, conversionRows_eq_pure_iff.mpr ⟨matrix, _, computed, written, rfl⟩,
      SquareMatrix.decimalUnlessZero written size identifiers⟩

/-- A sum that is collected in the float style is written with decimal numbers only, unless all its
weights are zero: then it is written as a bare zero. The arguments of the constructor calls in a
document are such sums. -/
theorem hasOnlyDecimals_iff_weighted {entries : List (Fraction × String)} {sum : LinearSum}
    (collects : LinearSum.Collects .float entries sum)
    (identifiers : ∀ entry ∈ entries, isIdentifier entry.2 = true) :
    ((∀ entry ∈ entries, entry.1.Reduced ∧ entry.1.Negatable) →
      ∃ text, sum.render = .ok text) ∧
    (∀ text, sum.render = .ok text →
      (HasOnlyDecimals text ↔ ∃ entry ∈ entries, entry.1.isZero = false)) ∧
    ((∀ entry ∈ entries, entry.1.isZero = true) → sum.render = .ok "0") ∧
    ∀ (catalog : Catalog) (f : Family) (number : Nat) (document : Document),
      (∀ name ∈ f.pointNames, isIdentifier name = true) →
      (generateType catalog f number).run = .ok (.ok document) →
      CallsRows catalog f number document ∧ DecimalRows catalog f := by
  refine ⟨fun words => ?_, fun text rendered =>
    LinearSum.hasOnlyDecimals_render_iff collects identifiers rendered,
    LinearSum.render_of_zeros collects, fun catalog f number document named generated =>
      ⟨callsRows_of_generateType named generated, decimalRows_of_generateType named generated⟩⟩
  have proper : ∀ term ∈ sum.terms, term.Proper := by
    rw [collects.terms_eq]
    exact LinearSum.proper_of_kept fun entry member => (words entry member).1
  have negatable : ∀ term ∈ sum.terms, term.weight.Negatable := by
    rw [collects.terms_eq]
    exact fun term member => (words _ (LinearSum.mem_kept member).1).2
  obtain ⟨formula, result⟩ := LinearSum.formula_ok proper negatable
  refine ⟨formula.text, ?_⟩
  rw [LinearSum.render, result]
  rfl

/-- A family of the parabolas through the origin: no point has an effect on the constant
coefficient. -/
def parabolas : Family where
  degree := 2
  id := "Parabola"
  display := "Parabola"
  basisId := "parabola"
  matrix := ⟨3, Grid.ofFn fun r c =>
    if r.val = 0 then 0 else if c.val = 0 then .ofInt64 3 else 1⟩
  pointNames := ["a", "b", "c"]
  pointDescriptions := ["", "", ""]
  splittable := false

/-- A sum of two names of three, and a document whose first row is zero. -/
theorem hasOnlyDecimals_iff_weighted_parabolas :
    (∃ text, (LinearSum.ofPairs [⟨3, 2⟩, 0, ⟨-3, 2⟩] ["a", "b", "c"] .float).render = .ok text ∧
      HasOnlyDecimals text) ∧
    ∃ document, (generateType ⟨[]⟩ parabolas 1).run = .ok (.ok document) ∧
      CallsRows ⟨[]⟩ parabolas 1 document ∧ DecimalRows ⟨[]⟩ parabolas := by
  obtain ⟨returns, decimals, -, documents⟩ := hasOnlyDecimals_iff_weighted
    (.pairs [⟨3, 2⟩, 0, ⟨-3, 2⟩] ["a", "b", "c"]) (by decide +kernel)
  obtain ⟨text, rendered⟩ := returns (by decide +kernel)
  obtain ⟨document, generated⟩ := Generation.exists_value_of_isSome
    (x := generateType ⟨[]⟩ parabolas 1) (by decide +kernel)
  exact ⟨⟨text, rendered, (decimals text rendered).mpr ⟨_, List.mem_cons_self, by decide⟩⟩,
    document, generated, documents ⟨[]⟩ parabolas 1 document (by decide +kernel) generated⟩

/-- The empty sum is a bare zero in the float style, and so is an argument in a document. -/
theorem empty_sum_is_bare :
    (LinearSum.empty .float).render = .ok "0" ∧ ¬HasOnlyDecimals "0" ∧
    ∃ document, (generateType ⟨[]⟩ parabolas 1).run = .ok (.ok document) ∧
      "            0," ∈ document.lines := by
  have none : ∀ entry ∈ ([] : List (Fraction × String)), isIdentifier entry.2 = true :=
    List.forall_mem_nil _
  have rendered : (LinearSum.empty .float).render = .ok "0" := rfl
  refine ⟨rendered, fun decimals => ?_, ?_⟩
  · obtain ⟨entry, absent, -⟩ :=
      (LinearSum.hasOnlyDecimals_render_iff .empty none rendered).mp decimals
    cases absent
  · have lines : (((generateType ⟨[]⟩ parabolas 1).run.toOption.bind Except.toOption).any
        fun document => "            0," ∈ document.lines) = true := by decide +kernel
    obtain ⟨document, generated⟩ := Generation.exists_value_of_isSome
      (x := generateType ⟨[]⟩ parabolas 1) (by decide +kernel)
    rw [generated] at lines
    exact ⟨document, generated, of_decide_eq_true lines⟩

end CurveForge
