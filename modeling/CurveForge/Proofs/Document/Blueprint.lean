import Mathlib
import CurveForge.Document.Blueprint
import CurveForge.Proofs.Catalog.Family
import CurveForge.Proofs.Formula.Rows
import CurveForge.Proofs.Generation
import CurveForge.Proofs.Matrix.Conversion

/-!
# What can fail about a blueprint

The blueprint of a well-formed family can fail in few ways: the dimension or the
degree is not supported, another cubic family has a singular matrix, or a number
is too large. Indices never leave their lists.
-/

namespace CurveForge

theorem degreeName_of_le (length : NameLength) {degree : Nat} (positive : 0 < degree)
    (small : degree ≤ 5) : ∃ name, degreeName length degree = .ok name := by
  interval_cases degree <;> cases length <;> exact ⟨_, rfl⟩

theorem degreeName_of_gt (length : NameLength) {degree : Nat} (large : 5 < degree) :
    degreeName length degree = .error (.unsupportedDegree degree) := by
  obtain ⟨more, rfl⟩ := Nat.exists_eq_add_of_lt large
  unfold degreeName
  split <;> first | omega | rfl

theorem Dimension.ofNumber_number (d : Dimension) : Dimension.ofNumber d.number = .ok d := by
  cases d <;> rfl

theorem Dimension.number_of_ofNumber {n : Nat} {d : Dimension} (known : ofNumber n = .ok d) :
    d.number = n := by
  unfold ofNumber at known
  split at known <;> cases known <;> rfl

/-- The numbers of dimensions are one, two and three. -/
theorem Dimension.ofNumber_of_mem {n : Nat} (member : n ∈ [1, 2, 3]) :
    ∃ d, Dimension.ofNumber n = .ok d := by
  simp only [List.mem_cons, List.not_mem_nil, or_false] at member
  rcases member with rfl | rfl | rfl <;> exact ⟨_, rfl⟩

theorem Dimension.ofNumber_of_not_mem {n : Nat} (other : n ∉ [1, 2, 3]) :
    Dimension.ofNumber n = .error (.unsupportedDimension n) := by
  simp only [List.mem_cons, List.not_mem_nil, or_false, not_or] at other
  unfold Dimension.ofNumber
  split <;> first | omega | rfl

namespace Family

variable {f : Family} {n : Nat}

theorem typeName_of_word {word : String} (worded : degreeName .short f.degree = .ok word) (n : Nat) :
    f.typeName n = .ok (f.id ++ word ++ toString n ++ "D") := by
  rw [typeName, worded]
  rfl

theorem typeName_of_le (positive : 0 < f.degree) (small : f.degree ≤ 5) (n : Nat) :
    ∃ name, f.typeName n = .ok name := by
  obtain ⟨word, worded⟩ := degreeName_of_le .short positive small
  exact ⟨_, typeName_of_word worded n⟩

theorem typeName_of_gt (large : 5 < f.degree) :
    f.typeName n = .error (.unsupportedDegree f.degree) := by
  rw [typeName, degreeName_of_gt .short large]
  rfl

/-- Behind the identifier, the name of a type has letters and digits only. -/
theorem mem_typeName {d : Dimension} {name : String} (named : f.typeName d.number = .ok name)
    {c : Char} (member : c ∈ name.toList) : c ∈ f.id.toList ∨ c.isAlphanum = true := by
  obtain ⟨word, worded, spelled⟩ := Checked.bind_eq_ok_iff.mp named
  cases spelled
  have letters : ∀ c ∈ word.toList, c.isAlphanum = true := by
    unfold degreeName at worded
    split at worded <;> cases worded <;> simp
  have digits : (toString d.number ++ "D").toList.all Char.isAlphanum = true := by
    cases d <;> rfl
  rw [String.append_assoc, String.toList_append, String.toList_append] at member
  rcases List.mem_append.mp member with stem | inside
  · rcases List.mem_append.mp stem with inside | inside
    · exact .inl inside
    · exact .inr (letters c inside)
  · exact .inr (List.all_eq_true.mp digits c inside)

end Family

theorem usesColumn_ok {col : Nat} {rows : List (List Fraction)}
    (inside : ∀ row ∈ rows, col < row.length) : ∃ used, usesColumn col rows = .ok used := by
  induction rows with
  | nil => exact ⟨false, rfl⟩
  | cons row rest ih =>
      obtain ⟨first, others⟩ := List.forall_mem_cons.mp inside
      obtain ⟨used, result⟩ := ih others
      unfold usesColumn
      rw [List.getElem?_eq_getElem first]
      cases zero : row[col].isZero with
      | false => exact ⟨true, by simp only [zero, Bool.false_eq_true, if_false]⟩
      | true => exact ⟨used, by simp only [zero, if_true, result]⟩

namespace PointFormulas

variable {m : SquareMatrix} {names : List String}

/-- With as many names as columns, every column is found in every row. -/
theorem usedNames_ok (same : names.length = m.size) :
    ∃ pattern, usedNames m names = .ok pattern := by
  have each : ∀ entry ∈ names.zipIdx, ∃ name, (do
      let used ← usesColumn entry.2 m.rows
      return if used then some entry.1 else none : Checked (Option String)) = .ok name ∧ True := by
    rintro ⟨name, col⟩ member
    have inside : ∀ row ∈ m.rows, col < row.length := by
      intro row rowMember
      rw [SquareMatrix.length_of_mem_rows rowMember, ← same]
      exact List.snd_lt_of_mem_zipIdx member
    obtain ⟨used, result⟩ := usesColumn_ok inside
    exact ⟨_, by rw [result]; rfl, trivial⟩
  obtain ⟨pattern, result, -⟩ := Checked.mapM_ok each
  exact ⟨pattern, result⟩

/-- Only a least word keeps a matrix with a name for each column from being written. -/
theorem ofMatrix_cases (reduced : m.Reduced) (positive : 0 < m.size)
    (same : names.length = m.size) :
    (∃ formulas, ofMatrix m names = .ok formulas) ∨
    (ofMatrix m names = .error .negateOverflow ∧ ¬m.Negatable) := by
  obtain ⟨pattern, used⟩ := usedNames_ok same
  unfold ofMatrix
  rw [used]
  cases result : m.formulas names .float with
  | error fault =>
      obtain ⟨rfl, least⟩ := SquareMatrix.formulas_eq_error reduced result
      exact .inr ⟨rfl, least⟩
  | ok formulas =>
      have count := (SquareMatrix.formulas_render reduced result).length_eq
      rw [SquareMatrix.length_rows] at count
      have nonempty : formulas.isEmpty = false := by
        rw [List.isEmpty_eq_false_iff, ← List.length_pos_iff, ← count]
        exact positive
      refine .inl ⟨⟨pattern, formulas⟩, ?_⟩
      simp only [bind, Except.bind, nonempty]
      rfl

end PointFormulas

/-! ## Conversions -/

namespace Blueprint

variable {catalog : Catalog} {f : Family} {d : Dimension}

/-- The faults of a family: a weight that cannot be written, in the family itself or in one of
its conversions, or a conversion whose fractions are too large. -/
inductive Overflow (catalog : Catalog) (f : Family) : Fault → Prop where
  | written (least : ¬f.matrix.Negatable) : Overflow catalog f .negateOverflow
  | computed {target : Family} {fault : Fault} (member : target ∈ conversionTargets catalog f)
      (failed : (f.matrix.conversion target.matrix).run = .error fault)
      (overflow : fault.IsOverflow) : Overflow catalog f fault
  | converted {target : Family} {matrix : SquareMatrix}
      (member : target ∈ conversionTargets catalog f)
      (result : f.matrix.conversion target.matrix = pure matrix) (least : ¬matrix.Negatable) :
      Overflow catalog f .negateOverflow

theorem Overflow.isOverflow {fault : Fault} (overflow : Overflow catalog f fault) :
    fault.IsOverflow := by
  cases overflow with
  | written least => exact .inr (.inr rfl)
  | computed member failed overflow => exact overflow
  | converted member result least => exact .inr (.inr rfl)

theorem mem_conversionTargets_iff {target : Family} :
    target ∈ conversionTargets catalog f ↔
      target ∈ catalog.families ∧ f.degree = 3 ∧ target.degree = 3 ∧ target.id ≠ f.id := by
  simp only [conversionTargets, Catalog.cubicFamilies, List.mem_filter, Bool.and_eq_true,
    beq_iff_eq, bne_iff_ne]
  tauto

/-- The first cubic family with another identifier whose matrix is singular, if the family itself
is cubic. -/
def singularTarget? (catalog : Catalog) (f : Family) : Option Family :=
  if f.degree = 3 then
    catalog.families.find? fun target =>
      target.degree = 3 ∧ target.id ≠ f.id ∧ target.matrix.determinant = 0
  else none

theorem find?_conversionTargets :
    (conversionTargets catalog f).find? (fun target => target.matrix.determinant = 0) =
      singularTarget? catalog f := by
  unfold conversionTargets Catalog.cubicFamilies singularTarget?
  rw [List.find?_filter, List.find?_filter]
  by_cases cubic : f.degree = 3
  · rw [if_pos cubic]
    congr 1
    funext target
    simp [cubic, bne]
  · rw [if_neg cubic, List.find?_eq_none]
    intro target _
    simp [cubic]

inductive ConversionOutcome (catalog : Catalog) (f target : Family) :
    Except Fault (Except GenerationError Conversion) → Prop where
  | overflow {fault : Fault} (reason : Overflow catalog f fault) :
      ConversionOutcome catalog f target (.error fault)
  | singular (zero : target.matrix.determinant = 0) :
      ConversionOutcome catalog f target
        (.ok (.error (.singularBasisMatrix f.matrix target.matrix)))
  | converted (conversion : Conversion) (nonzero : target.matrix.determinant ≠ 0) :
      ConversionOutcome catalog f target (.ok (.ok conversion))

theorem conversionTo_outcome (d : Dimension) {target : Family} (fits : f.WellFormed)
    (targetFits : target.WellFormed) (reduced : f.matrix.Reduced)
    (targetReduced : target.matrix.Reduced) (member : target ∈ conversionTargets catalog f) :
    ConversionOutcome catalog f target (conversionTo f d target).run := by
  obtain ⟨-, cubic, targetCubic, -⟩ := mem_conversionTargets_iff.mp member
  have positive : 0 < target.degree := targetFits.degree_pos
  obtain ⟨name, named⟩ := Family.typeName_of_le positive (by omega) d.number
  have sizes : f.matrix.size = target.matrix.size := by
    rw [fits.matrix_size, targetFits.matrix_size, cubic, targetCubic]
  have yields := SquareMatrix.conversion_yields reduced targetReduced
  unfold conversionTo
  rw [named, Generation.answer_bind]
  cases result : (f.matrix.conversion target.matrix).run with
  | error fault =>
      rw [Generation.run_bind_of_fault result]
      exact .overflow (.computed member result (yields.of_eq_error result))
  | ok answer =>
      have holds := yields.of_eq_ok result
      cases answer with
      | error reason =>
          rw [Generation.run_bind_of_reason result]
          rcases holds with ⟨differ, -⟩ | ⟨-, zero, rfl⟩
          · exact absurd sizes differ
          · exact .singular zero
      | ok matrix =>
          obtain ⟨-, nonzero, matrixReduced, solves⟩ := holds
          rw [Generation.run_bind_of_value result]
          have width : f.pointNames.length = matrix.size := by
            rw [solves.size_eq.2, fits.name_count, fits.matrix_size]
          have positive : 0 < matrix.size := by
            rw [← width, fits.name_count]
            exact Nat.succ_pos _
          rcases PointFormulas.ofMatrix_cases matrixReduced positive width
            with ⟨formulas, written⟩ | ⟨failed, least⟩
          · rw [written, Generation.compute_bind]
            exact .converted ⟨name, formulas⟩ nonzero
          · rw [failed, Generation.run_fail_bind]
            exact .overflow (.converted member result least)

/-- A conversion consists of a type name and the formulas of a computed matrix. -/
theorem parts_of_conversionTo {target : Family} {c : Conversion}
    (converted : (conversionTo f d target).run = .ok (.ok c)) :
    target.typeName d.number = .ok c.target ∧
      ∃ matrix, (f.matrix.conversion target.matrix).run = .ok (.ok matrix) ∧
        PointFormulas.ofMatrix matrix f.pointNames = .ok c.formulas := by
  obtain ⟨name, named, converted⟩ := Generation.run_answer_bind_eq_value_iff.mp converted
  obtain ⟨matrix, computed, converted⟩ := Generation.run_bind_eq_value_iff.mp converted
  obtain ⟨formulas, written, converted⟩ := Generation.run_compute_bind_eq_value_iff.mp converted
  cases converted
  exact ⟨named, matrix, computed, written⟩

/-- What the conversions of the blueprint into some families come to: the first singular family is
the one that is reported. -/
inductive ConversionsOutcome (catalog : Catalog) (f : Family) (targets : List Family) :
    Except Fault (Except GenerationError (List Conversion)) → Prop where
  | overflow {fault : Fault} (reason : Overflow catalog f fault) :
      ConversionsOutcome catalog f targets (.error fault)
  | singular {target : Family}
      (first : targets.find? (fun target => target.matrix.determinant = 0) = some target) :
      ConversionsOutcome catalog f targets
        (.ok (.error (.singularBasisMatrix f.matrix target.matrix)))
  | converted (conversions : List Conversion)
      (regular : targets.find? (fun target => target.matrix.determinant = 0) = none) :
      ConversionsOutcome catalog f targets (.ok (.ok conversions))

/-- The induction is on the families; each step adds one conversion in front. -/
theorem conversions_outcome {targets : List Family}
    (each : ∀ target ∈ targets, ConversionOutcome catalog f target (conversionTo f d target).run) :
    ConversionsOutcome catalog f targets (targets.mapM (conversionTo f d)).run := by
  induction targets with
  | nil => exact .converted [] rfl
  | cons target rest ih =>
      obtain ⟨first, others⟩ := List.forall_mem_cons.mp each
      rw [List.mapM_cons]
      generalize answer : (conversionTo f d target).run = outcome at first
      cases first with
      | overflow reason =>
          rw [Generation.run_bind_of_fault answer]
          exact .overflow reason
      | singular zero =>
          rw [Generation.run_bind_of_reason answer]
          exact .singular (List.find?_cons_of_pos (decide_eq_true zero))
      | converted conversion nonzero =>
          have skipped : (target :: rest).find? (fun target => target.matrix.determinant = 0) =
              rest.find? (fun target => target.matrix.determinant = 0) :=
            List.find?_cons_of_neg (by simpa using nonzero)
          rw [Generation.run_bind_of_value answer]
          have tail := ih others
          generalize restAnswer : (rest.mapM (conversionTo f d)).run = restOutcome at tail
          cases tail with
          | overflow reason =>
              rw [Generation.run_bind_of_fault restAnswer]
              exact .overflow reason
          | singular first =>
              rw [Generation.run_bind_of_reason restAnswer]
              exact .singular (skipped.trans first)
          | converted conversions regular =>
              rw [Generation.run_bind_of_value restAnswer]
              exact .converted (conversion :: conversions) (skipped.trans regular)

/-! ## The blueprint -/

/-- What a blueprint of a family in a dimension holds. -/
structure Describes (catalog : Catalog) (f : Family) (number : Nat) (b : Blueprint) : Prop where
  dimension : Dimension.ofNumber number = .ok b.dimension
  name : f.typeName number = .ok b.name
  degree : b.degree = f.degree
  degreeWord : ∃ word, degreeName .long f.degree = .ok word ∧ b.degreeWord = Text.lowercase word
  displayWord : b.displayWord = Text.lowercase f.display
  points : b.points = (f.pointNames.zip f.pointDescriptions).map fun pair => ⟨pair.1, pair.2⟩
  curve : PointFormulas.ofMatrix f.matrix f.pointNames = .ok b.curve
  spherical : sphericalEnds? f b.dimension = .ok b.spherical
  splittable : b.splittable = f.splittable
  castTarget : castTarget? f b.dimension = .ok b.castTarget
  conversions : (conversionTargets catalog f).mapM (conversionTo f b.dimension) =
    pure b.conversions

theorem describes_of_ofFamily {valid : ValidFamily} {dimension : Nat} {b : Blueprint}
    (drawn : (ofFamily catalog valid dimension).run = .ok (.ok b)) :
    b.Describes catalog valid.family dimension := by
  unfold ofFamily at drawn
  obtain ⟨d, number, drawn⟩ := Generation.run_answer_bind_eq_value_iff.mp drawn
  obtain ⟨name, named, drawn⟩ := Generation.run_answer_bind_eq_value_iff.mp drawn
  obtain ⟨word, worded, drawn⟩ := Generation.run_answer_bind_eq_value_iff.mp drawn
  obtain ⟨castTarget, cast, drawn⟩ := Generation.run_answer_bind_eq_value_iff.mp drawn
  obtain ⟨curve, written, drawn⟩ := Generation.run_compute_bind_eq_value_iff.mp drawn
  obtain ⟨ends, ended, drawn⟩ := Generation.run_compute_bind_eq_value_iff.mp drawn
  obtain ⟨splittable, checked, drawn⟩ := Generation.run_compute_bind_eq_value_iff.mp drawn
  obtain ⟨conversions, converted, drawn⟩ := Generation.run_bind_eq_value_iff.mp drawn
  cases drawn
  refine ⟨number, named, rfl, ⟨word, worded, rfl⟩, rfl, rfl, written, ended, ?_, cast, converted⟩
  unfold checkSplittable at checked
  split at checked
  · cases checked
  · exact (Except.ok.inj checked).symm

theorem Describes.dimension_eq {b : Blueprint} (describes : b.Describes catalog f d.number) :
    b.dimension = d :=
  (Except.ok.inj ((Dimension.ofNumber_number d).symm.trans describes.dimension)).symm

theorem exists_typeName_of_castTarget? {target : String}
    (cast : castTarget? f d = .ok (some target)) :
    ∃ other : Dimension, f.typeName other.number = .ok target := by
  unfold castTarget? at cast
  split at cast
  · cases cast
  · obtain ⟨name, named, done⟩ := Checked.bind_eq_ok_iff.mp cast
    cases done
    exact ⟨_, named⟩

theorem mem_of_sphericalEnds? {ends : EndPoints} (ended : sphericalEnds? f d = .ok (some ends)) :
    ends.first ∈ f.pointNames ∧ ends.last ∈ f.pointNames := by
  unfold sphericalEnds? at ended
  split at ended
  · cases ended
  · obtain ⟨found, points, done⟩ := Checked.bind_eq_ok_iff.mp ended
    cases done
    unfold endPoints at points
    split at points
    next first last head final =>
      cases points
      exact ⟨List.mem_of_head? head, List.mem_of_getLast? final⟩
    next => cases points

namespace Describes

variable {number : Nat} {b : Blueprint} (describes : b.Describes catalog f number)

include describes

theorem typeName : f.typeName b.dimension.number = .ok b.name := by
  rw [Dimension.number_of_ofNumber describes.dimension]
  exact describes.name

theorem degreeWord_mem :
    b.degreeWord ∈ ["linear", "quadratic", "cubic", "quartic", "quintic"] := by
  obtain ⟨word, named, lowered⟩ := describes.degreeWord
  rw [lowered]
  unfold degreeName at named
  split at named <;> first | contradiction | (cases named; decide)

theorem pointNames (fits : f.WellFormed) : b.pointNames = f.pointNames := by
  have widths : f.pointNames.length ≤ f.pointDescriptions.length := by
    rw [fits.name_count, fits.description_count]
  rw [Blueprint.pointNames, describes.points, List.map_map]
  exact List.map_fst_zip widths

theorem mem_of_mem_points {p : ControlPoint} (member : p ∈ b.points) :
    p.name ∈ f.pointNames ∧ p.description ∈ f.pointDescriptions := by
  rw [describes.points] at member
  obtain ⟨pair, zipped, rfl⟩ := List.mem_map.mp member
  exact List.of_mem_zip zipped

theorem mem_of_mem_spherical {ends : EndPoints} (chosen : ends ∈ b.spherical) :
    ends.first ∈ f.pointNames ∧ ends.last ∈ f.pointNames := by
  have ended := describes.spherical
  rw [Option.mem_def.mp chosen] at ended
  exact mem_of_sphericalEnds? ended

theorem exists_typeName_of_mem_castTarget {target : String} (chosen : target ∈ b.castTarget) :
    ∃ other : Dimension, f.typeName other.number = .ok target := by
  have cast := describes.castTarget
  rw [Option.mem_def.mp chosen] at cast
  exact exists_typeName_of_castTarget? cast

/-- The conversions of a blueprint, one for each family that it is converted into. -/
theorem converted :
    List.Forall₂ (fun target c => (conversionTo f b.dimension target).run = .ok (.ok c))
      (conversionTargets catalog f) b.conversions :=
  Generation.run_mapM_eq_value_iff.mp describes.conversions

theorem exists_target {c : Conversion} (member : c ∈ b.conversions) :
    ∃ target ∈ conversionTargets catalog f,
      (conversionTo f b.dimension target).run = .ok (.ok c) :=
  exists_of_forall₂_of_mem describes.converted member

theorem exists_conversion {target : Family} (listed : target ∈ conversionTargets catalog f) :
    ∃ c ∈ b.conversions, (conversionTo f b.dimension target).run = .ok (.ok c) :=
  exists_of_forall₂_of_mem describes.converted.flip listed

end Describes

inductive Outcome (catalog : Catalog) (f : Family) (dimension : Nat) :
    Except Fault (Except GenerationError Blueprint) → Prop where
  | unsupportedDimension (other : dimension ∉ [1, 2, 3]) :
      Outcome catalog f dimension (.ok (.error (.unsupportedDimension dimension)))
  | unsupportedDegree (supported : dimension ∈ [1, 2, 3]) (large : 5 < f.degree) :
      Outcome catalog f dimension (.ok (.error (.unsupportedDegree f.degree)))
  | singular {target : Family} (supported : dimension ∈ [1, 2, 3]) (small : f.degree ≤ 5)
      (first : singularTarget? catalog f = some target) :
      Outcome catalog f dimension (.ok (.error (.singularBasisMatrix f.matrix target.matrix)))
  | drawn (blueprint : Blueprint) (supported : dimension ∈ [1, 2, 3]) (small : f.degree ≤ 5)
      (regular : singularTarget? catalog f = none) :
      Outcome catalog f dimension (.ok (.ok blueprint))
  | overflow {fault : Fault} (supported : dimension ∈ [1, 2, 3]) (small : f.degree ≤ 5)
      (reason : Overflow catalog f fault) : Outcome catalog f dimension (.error fault)

theorem castTarget?_ok (d : Dimension) (positive : 0 < f.degree) (small : f.degree ≤ 5) :
    ∃ target, castTarget? f d = .ok target := by
  unfold castTarget?
  cases castDimension? f d with
  | none => exact ⟨none, rfl⟩
  | some other =>
      obtain ⟨name, named⟩ := Family.typeName_of_le positive small other.number
      refine ⟨some name, ?_⟩
      simp only [named]
      rfl

theorem sphericalEnds?_ok (d : Dimension) (nonempty : f.pointNames ≠ []) :
    ∃ ends, sphericalEnds? f d = .ok ends := by
  unfold sphericalEnds?
  cases isSpherical f d with
  | false => exact ⟨none, rfl⟩
  | true =>
      have head := List.head?_eq_some_head nonempty
      have last := List.getLast?_eq_some_getLast nonempty
      refine ⟨some ⟨f.pointNames.head nonempty, f.pointNames.getLast nonempty⟩, ?_⟩
      rw [endPoints, head, last]
      rfl

theorem checkSplittable_ok (nonempty : f.pointNames ≠ []) :
    checkSplittable f = .ok f.splittable := by
  have present : f.pointNames.isEmpty = false := List.isEmpty_eq_false_iff.mpr nonempty
  rw [checkSplittable, present, Bool.and_false]
  rfl

/-- A blueprint is drawn from what describes it. -/
theorem ofFamily_of_describes {valid : ValidFamily} {dimension : Nat} {b : Blueprint}
    (describes : b.Describes catalog valid.family dimension) :
    (ofFamily catalog valid dimension).run = .ok (.ok b) := by
  have fits := Family.WellFormed.of_validate valid.valid
  have nonempty : valid.family.pointNames ≠ [] := by
    rw [← List.length_pos_iff, fits.name_count]
    exact Nat.succ_pos _
  obtain ⟨name, d, degree, degreeWord, displayWord, points, curve, spherical, splittable,
    castTarget, conversions⟩ := b
  obtain ⟨number, named, rfl, ⟨word, worded, rfl⟩, rfl, rfl, written, ended, rfl, cast,
    converted⟩ := describes
  unfold ofFamily
  rw [number, Generation.answer_bind, named, Generation.answer_bind, worded,
    Generation.answer_bind, cast, Generation.answer_bind, written, Generation.compute_bind, ended,
    Generation.compute_bind, checkSplittable_ok nonempty, Generation.compute_bind,
    Generation.run_bind_of_value (congrArg ExceptT.run converted)]
  rfl

theorem ofFamily_outcome (catalog : Catalog) (valid : ValidFamily) (dimension : Nat)
    (reduced : valid.family.matrix.Reduced)
    (catalogReduced : ∀ g ∈ catalog.families, g.matrix.Reduced) :
    Outcome catalog valid.family dimension (ofFamily catalog valid dimension).run := by
  obtain ⟨f, accepted⟩ := valid
  have fits := Family.WellFormed.of_validate accepted
  have nonempty : f.pointNames ≠ [] := by
    rw [← List.length_pos_iff, fits.name_count]
    exact Nat.succ_pos _
  unfold ofFamily
  by_cases supported : dimension ∈ [1, 2, 3]
  · obtain ⟨d, number⟩ := Dimension.ofNumber_of_mem supported
    rw [number, Generation.answer_bind]
    by_cases small : f.degree ≤ 5
    · obtain ⟨name, named⟩ := Family.typeName_of_le fits.degree_pos small dimension
      obtain ⟨word, worded⟩ := degreeName_of_le .long fits.degree_pos small
      obtain ⟨castTarget, cast⟩ := castTarget?_ok d fits.degree_pos small
      obtain ⟨ends, ended⟩ := sphericalEnds?_ok d nonempty
      rw [named, Generation.answer_bind, worded, Generation.answer_bind, cast,
        Generation.answer_bind]
      rcases PointFormulas.ofMatrix_cases reduced (by rw [fits.matrix_size]; exact Nat.succ_pos _)
        (fits.name_count.trans fits.matrix_size.symm) with ⟨curve, written⟩ | ⟨failed, least⟩
      · rw [written, Generation.compute_bind, ended, Generation.compute_bind,
          checkSplittable_ok nonempty, Generation.compute_bind]
        have conversions : ConversionsOutcome catalog f (conversionTargets catalog f)
            ((conversionTargets catalog f).mapM (conversionTo f d)).run := by
          apply conversions_outcome
          intro target member
          obtain ⟨listed, -⟩ := mem_conversionTargets_iff.mp member
          obtain ⟨entry, -, rfl⟩ := List.mem_map.mp listed
          exact conversionTo_outcome d fits (.of_validate entry.valid) reduced
            (catalogReduced entry.family listed) member
        generalize answer : ((conversionTargets catalog f).mapM (conversionTo f d)).run = outcome
          at conversions
        cases conversions with
        | overflow reason =>
            rw [Generation.run_bind_of_fault answer]
            exact .overflow supported small reason
        | singular first =>
            rw [Generation.run_bind_of_reason answer]
            exact .singular supported small (find?_conversionTargets.symm.trans first)
        | converted conversions regular =>
            rw [Generation.run_bind_of_value answer]
            exact .drawn _ supported small (find?_conversionTargets.symm.trans regular)
      · rw [failed, Generation.run_fail_bind]
        exact .overflow supported small (.written least)
    · have large : 5 < f.degree := not_le.mp small
      rw [Family.typeName_of_gt large, Generation.run_refuse_bind]
      exact .unsupportedDegree supported large
  · rw [Dimension.ofNumber_of_not_mem supported, Generation.run_refuse_bind]
    exact .unsupportedDimension supported

end Blueprint

end CurveForge
