import Mathlib
import CurveForge.Batch
import CurveForge.Catalog.Standard
import CurveForge.Proofs.Document.Blueprint

/-!
# The answer of a generation

Generating a type has one of five answers, which the family, the dimension and the
cubic families of the catalog decide. Only numbers that are too large keep it from
answering.
-/

namespace CurveForge

open Blueprint

/-- The documents of a family are those of the blueprints that describe it. -/
theorem generateType_eq_value_iff {catalog : Catalog} {f : Family} {number : Nat}
    {document : Document} :
    (generateType catalog f number).run = .ok (.ok document) ↔
      f.validate = pure () ∧
        ∃ b : Blueprint, b.Describes catalog f number ∧ b.document = document := by
  unfold generateType
  constructor
  · intro generated
    obtain ⟨valid, checked, generated⟩ := Generation.run_bind_eq_value_iff.mp generated
    obtain ⟨b, drawn, written⟩ := Generation.run_bind_eq_value_iff.mp generated
    have describes := describes_of_ofFamily drawn
    rw [Family.family_of_check checked] at describes
    exact ⟨Family.validate_of_check checked, b, describes, Except.ok.inj (Except.ok.inj written)⟩
  · rintro ⟨accepted, b, describes, rfl⟩
    rw [Family.check_of_valid accepted, pure_bind,
      Generation.run_bind_of_value (ofFamily_of_describes describes)]
    rfl

/-- A document comes from a blueprint of a well-formed family. -/
theorem describes_of_generateType {catalog : Catalog} {f : Family} {number : Nat}
    {document : Document} (generated : (generateType catalog f number).run = .ok (.ok document)) :
    ∃ b : Blueprint, b.Describes catalog f number ∧ f.WellFormed ∧ b.document = document := by
  obtain ⟨accepted, b, describes, written⟩ := generateType_eq_value_iff.mp generated
  exact ⟨b, describes, .of_validate accepted, written⟩

/-- The module name of a document comes from the name of its type. -/
theorem exists_typeName_of_generateType {catalog : Catalog} {f : Family} {number : Nat}
    {document : Document} (generated : (generateType catalog f number).run = .ok (.ok document)) :
    ∃ name, f.typeName number = .ok name ∧ document.moduleName = moduleName name := by
  obtain ⟨b, describes, -, rfl⟩ := describes_of_generateType generated
  exact ⟨b.name, describes.name, rfl⟩

inductive GenerationOutcome (catalog : Catalog) (f : Family) (dimension : Nat) :
    Except Fault (Except GenerationError Document) → Prop where
  | malformed (reason : Malformation) (unfit : ¬f.WellFormed) :
      GenerationOutcome catalog f dimension (.ok (.error (.malformedDescriptor f.typeStem reason)))
  | unsupportedDimension (fits : f.WellFormed) (other : dimension ∉ [1, 2, 3]) :
      GenerationOutcome catalog f dimension (.ok (.error (.unsupportedDimension dimension)))
  | unsupportedDegree (fits : f.WellFormed) (supported : dimension ∈ [1, 2, 3])
      (large : 5 < f.degree) :
      GenerationOutcome catalog f dimension (.ok (.error (.unsupportedDegree f.degree)))
  | singular {target : Family} (fits : f.WellFormed) (supported : dimension ∈ [1, 2, 3])
      (small : f.degree ≤ 5) (first : singularTarget? catalog f = some target) :
      GenerationOutcome catalog f dimension
        (.ok (.error (.singularBasisMatrix f.matrix target.matrix)))
  | generated (document : Document) (fits : f.WellFormed) (supported : dimension ∈ [1, 2, 3])
      (small : f.degree ≤ 5) (regular : singularTarget? catalog f = none) :
      GenerationOutcome catalog f dimension (.ok (.ok document))
  | overflow {fault : Fault} (fits : f.WellFormed) (supported : dimension ∈ [1, 2, 3])
      (small : f.degree ≤ 5) (reason : Overflow catalog f fault) :
      GenerationOutcome catalog f dimension (.error fault)

variable {catalog : Catalog} {f : Family} {dimension : Nat}

theorem generateType_outcome (dimension : Nat) (bounded : f.degree + 1 < Word.limit)
    (reduced : f.matrix.Reduced) (catalogReduced : ∀ g ∈ catalog.families, g.matrix.Reduced) :
    GenerationOutcome catalog f dimension (generateType catalog f dimension).run := by
  unfold generateType
  by_cases fits : f.WellFormed
  · have accepted : f.validate = pure () := Family.validate_eq_pure_iff.mpr ⟨bounded, fits⟩
    rw [Family.check_of_valid accepted, pure_bind]
    have drawn := ofFamily_outcome catalog ⟨f, accepted⟩ dimension reduced catalogReduced
    generalize answer : (ofFamily catalog ⟨f, accepted⟩ dimension).run = outcome at drawn
    cases drawn with
    | unsupportedDimension other =>
        rw [Generation.run_bind_of_reason answer]
        exact .unsupportedDimension fits other
    | unsupportedDegree supported large =>
        rw [Generation.run_bind_of_reason answer]
        exact .unsupportedDegree fits supported large
    | singular supported small first =>
        rw [Generation.run_bind_of_reason answer]
        exact .singular fits supported small first
    | drawn blueprint supported small regular =>
        rw [Generation.run_bind_of_value answer]
        exact .generated blueprint.document fits supported small regular
    | overflow supported small reason =>
        rw [Generation.run_bind_of_fault answer]
        exact .overflow fits supported small reason
  · obtain ⟨reason, answer⟩ := Family.check_of_malformed bounded fits
    rw [Generation.run_bind_of_reason answer]
    exact .malformed reason fits

/-- Some cubic family with another identifier has a singular matrix, and the family is cubic. -/
def Family.MeetsSingular (catalog : Catalog) (f : Family) : Prop :=
  f.degree = 3 ∧ ∃ g ∈ catalog.families,
    g.degree = 3 ∧ g.id ≠ f.id ∧ g.matrix.determinant = 0

theorem singularTarget?_isSome_iff :
    (∃ target, singularTarget? catalog f = some target) ↔ f.MeetsSingular catalog := by
  unfold singularTarget? Family.MeetsSingular
  by_cases cubic : f.degree = 3
  · simp [cubic, ← Option.isSome_iff_exists, List.find?_isSome]
  · simp [cubic]

theorem not_meetsSingular_iff : ¬f.MeetsSingular catalog ↔ singularTarget? catalog f = none := by
  rw [← singularTarget?_isSome_iff, ← Option.isSome_iff_exists, Option.not_isSome_iff_eq_none]

/-- Which answer is given in which case. -/
structure Verdict (catalog : Catalog) (f : Family) (dimension : Nat)
    (answer : Except GenerationError Document) : Prop where
  malformed : (∃ reason, answer = .error (.malformedDescriptor f.typeStem reason)) ↔ ¬f.WellFormed
  unsupportedDimension : answer = .error (.unsupportedDimension dimension) ↔
    f.WellFormed ∧ dimension ∉ [1, 2, 3]
  unsupportedDegree : answer = .error (.unsupportedDegree f.degree) ↔
    f.WellFormed ∧ dimension ∈ [1, 2, 3] ∧ 5 < f.degree
  singular : (∃ target, singularTarget? catalog f = some target ∧
      answer = .error (.singularBasisMatrix f.matrix target.matrix)) ↔
    f.WellFormed ∧ dimension ∈ [1, 2, 3] ∧ f.MeetsSingular catalog
  generated : (∃ document, answer = .ok document) ↔
    f.WellFormed ∧ dimension ∈ [1, 2, 3] ∧ f.degree ≤ 5 ∧ ¬f.MeetsSingular catalog
  degrees_match (source target : Nat) : answer ≠ .error (.degreeMismatch source target)

/-- A generation gives the answer of its case, and only numbers that are too large keep it from
answering: no index leaves its list. -/
theorem generateType_verdict (bounded : f.degree + 1 < Word.limit) (reduced : f.matrix.Reduced)
    (catalogReduced : ∀ g ∈ catalog.families, g.matrix.Reduced) :
    (∀ fault, (generateType catalog f dimension).run = .error fault →
      Overflow catalog f fault ∧ fault.IsOverflow) ∧
    ∀ answer, (generateType catalog f dimension).run = .ok answer →
      Verdict catalog f dimension answer := by
  have outcome := generateType_outcome dimension bounded reduced catalogReduced
  constructor
  · intro fault failed
    rw [failed] at outcome
    cases outcome with
    | overflow fits supported small reason => exact ⟨reason, reason.isOverflow⟩
  · intro answer answered
    rw [answered] at outcome
    cases outcome with
    | malformed reason unfit => constructor <;> simp [unfit]
    | unsupportedDimension fits other => constructor <;> simp [fits, other]
    | unsupportedDegree fits supported large =>
        have notCubic : f.degree ≠ 3 := by omega
        constructor <;> simp [fits, supported, large, notCubic, Family.MeetsSingular]
    | singular fits supported small first =>
        have meets := singularTarget?_isSome_iff.mp ⟨_, first⟩
        constructor <;> simp [fits, supported, small, first, meets]
    | generated document fits supported small regular =>
        have avoids := not_meetsSingular_iff.mpr regular
        constructor <;> simp [fits, supported, small, avoids]

/-- The Hermite curve of the plane is generated, and that is the answer of its case. -/
theorem generateType_verdict_hermite :
    ((generateType Catalog.standard Catalog.hermite 2).run.toOption.bind
      Except.toOption).isSome = true ∧
    ∀ answer, (generateType Catalog.standard Catalog.hermite 2).run = .ok answer →
      Verdict Catalog.standard Catalog.hermite 2 answer :=
  ⟨by decide +kernel,
    (generateType_verdict (by decide +kernel) (by decide +kernel) (by decide +kernel)).2⟩

end CurveForge
