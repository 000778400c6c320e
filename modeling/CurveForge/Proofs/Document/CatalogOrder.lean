import Mathlib
import CurveForge.Catalog.Standard
import CurveForge.Proofs.Document.Generate
import CurveForge.Proofs.Document.Ties

/-!
# Types and the order of a catalog

A type depends on the catalog through the families that it converts into, and
these are cubic. Another order of them moves the conversions at the end of the
document; nothing else changes, not even the imports, because they are sorted.
-/

namespace CurveForge

open Source

namespace Blueprint

def sections (b : Blueprint) : Source :=
  concat [b.imports, b.definition, b.inherentImplementation, b.traitImplementations,
    b.dimensionCast]

/-- The conversions into other families are the last lines of a document. -/
theorem lines_document (b : Blueprint) :
    b.document.lines =
      b.sections.lines ++ b.conversions.flatMap fun c => (b.basisConversion c).lines := by
  rw [document, lines_eq_linesAt, lines_eq_linesAt, source, sections, linesAt_concat,
    linesAt_concat]
  simp only [List.flatMap_cons, List.flatMap_nil, List.append_nil, List.append_assoc,
    basisConversions, linesAt_concat, List.flatMap_map, lines_eq_linesAt]

/-- Sorting forgets the order of the conversions. -/
theorem relatedTypes_withConversions (b : Blueprint) {conversions : List Conversion}
    (perm : conversions.Perm b.conversions) :
    { b with conversions }.relatedTypes = b.relatedTypes := by
  have targets : { b with conversions }.targets.Perm b.targets :=
    (perm.map Conversion.target).append_left b.castTarget.toList
  refine List.Perm.eq_of_pairwise (fun _ _ _ _ below above => le_antisymm below above)
    (relatedTypes_sorted _) (relatedTypes_sorted _) ?_
  exact (relatedTypes_perm _).trans (targets.trans (relatedTypes_perm b).symm)

theorem sections_withConversions (b : Blueprint) {conversions : List Conversion}
    (perm : conversions.Perm b.conversions) :
    { b with conversions }.sections = b.sections := by
  have imports : { b with conversions }.imports = b.imports := by
    unfold Blueprint.imports
    rw [b.relatedTypes_withConversions perm]
  rw [sections, imports]
  rfl

/-- What a conversion consists of: an empty line, the header that names both types, lines that are
indented, and a closing brace. -/
def IsConversionBlock (source target : String) (block : List String) : Prop :=
  ∃ inner, block = ["", conversionLine source target] ++ inner ++ ["\x7d"] ∧
    ∀ line ∈ inner, Writer.Indented 1 line

theorem isConversionBlock_basisConversion (b : Blueprint) (c : Conversion) :
    IsConversionBlock b.name c.target (b.basisConversion c).lines := by
  have lines (parameter : String) (body : Source) :
      IsConversionBlock b.name c.target (b.conversionInto c.target parameter .nothing body).lines := by
    refine ⟨linesAt 1 (block ("fn from(" ++ parameter ++ ": " ++ b.name ++ ") -> Self") body), ?_,
      fun line member => indented_of_mem_linesAt member⟩
    rw [lines_eq_linesAt, conversionInto, linesAt_concat, ← header_conversionInto]
    simp [implementation, linesAt_block, linesAt]
  exact lines _ _

variable {first second : Catalog} {f : Family} {number : Nat}

theorem conversionTargets_congr
    (same : f.degree ≠ 3 ∨ first.cubicFamilies = second.cubicFamilies) :
    conversionTargets first f = conversionTargets second f := by
  unfold conversionTargets
  rcases same with other | same
  · have none (target : Family) : (f.degree == 3 && target.id != f.id) = false := by
      simp [other]
    simp [none]
  · rw [same]

theorem conversionTargets_perm (perm : first.cubicFamilies.Perm second.cubicFamilies) :
    (conversionTargets first f).Perm (conversionTargets second f) :=
  perm.filter _

/-- Another order of the cubic families is an order of the conversions. -/
theorem Describes.reorder {b : Blueprint} (describes : b.Describes first f number)
    (perm : first.cubicFamilies.Perm second.cubicFamilies) :
    ∃ conversions, conversions.Perm b.conversions ∧
      { b with conversions }.Describes second f number := by
  have targets := conversionTargets_perm (f := f) perm
  obtain ⟨conversions, related, order⟩ := List.perm_comp_forall₂ targets.symm describes.converted
  refine ⟨conversions, order, ?_⟩
  exact { describes with conversions := Generation.run_mapM_eq_value_iff.mpr related }

/-- The lines that convert a type into one of another family, if there are any. -/
def conversionBlock (b : Blueprint) (f target : Family) : List String :=
  match (conversionTo f b.dimension target).run with
  | .ok (.ok c) => (b.basisConversion c).lines
  | _ => []

variable {b : Blueprint}

/-- The conversions at the end of a document follow the order of the catalog. -/
theorem Describes.flatMap_conversions (describes : b.Describes first f number) :
    (b.conversions.flatMap fun c => (b.basisConversion c).lines) =
      (conversionTargets first f).flatMap (b.conversionBlock f) := by
  rw [List.flatMap_def, List.flatMap_def]
  refine congrArg List.flatten (map_eq_map_of_forall₂ (describes.converted.imp ?_)).symm
  intro target c result
  rw [conversionBlock, result]

theorem Describes.isConversionBlock (describes : b.Describes first f number) {target : Family}
    (member : target ∈ conversionTargets first f) :
    ∃ name, target.typeName number = .ok name ∧
      IsConversionBlock b.name name (b.conversionBlock f target) := by
  obtain ⟨c, -, result⟩ := describes.exists_conversion member
  refine ⟨c.target, ?_, ?_⟩
  · rw [← Dimension.number_of_ofNumber describes.dimension]
    exact (parts_of_conversionTo result).1
  · rw [conversionBlock, result]
    exact b.isConversionBlock_basisConversion c

end Blueprint

open Blueprint

variable {first second : Catalog} {f : Family} {number : Nat}

theorem generateType_congr (same : conversionTargets first f = conversionTargets second f) :
    generateType first f number = generateType second f number := by
  unfold generateType
  apply ExceptT.ext
  cases answer : f.check.run with
  | error fault => rw [Generation.run_bind_of_fault answer, Generation.run_bind_of_fault answer]
  | ok verdict =>
      cases verdict with
      | error reason =>
          rw [Generation.run_bind_of_reason answer, Generation.run_bind_of_reason answer]
      | ok valid =>
          have drawn : ofFamily first valid number = ofFamily second valid number := by
            unfold ofFamily
            simp only [Family.family_of_check answer, same]
          rw [Generation.run_bind_of_value answer, Generation.run_bind_of_value answer, drawn]

/-- Documents of one type under two catalogs that agree except for the order of the conversions at
their ends, which is the order of the families that the type converts into. -/
structure Reordered (first second : Catalog) (f : Family) (number : Nat)
    (document other : Document) : Prop where
  name : document.name = other.name
  moduleName : document.moduleName = other.moduleName
  targets : (conversionTargets first f).Perm (conversionTargets second f)
  lines : ∃ (sections : List String) (block : Family → List String),
    document.lines = sections ++ (conversionTargets first f).flatMap block ∧
    other.lines = sections ++ (conversionTargets second f).flatMap block ∧
    ∀ target ∈ conversionTargets first f, ∃ name, target.typeName number = .ok name ∧
      IsConversionBlock document.name name (block target)
  siblings : startingWith Tie.siblings.start document.lines =
    startingWith Tie.siblings.start other.lines

/-- A type that is generated from one order of the cubic families is generated from every other. -/
theorem exists_reordered (perm : first.cubicFamilies.Perm second.cubicFamilies)
    {document : Document} (generated : (generateType first f number).run = .ok (.ok document)) :
    ∃ other, (generateType second f number).run = .ok (.ok other) ∧
      Reordered first second f number document other := by
  obtain ⟨accepted, b, describes, rfl⟩ := generateType_eq_value_iff.mp generated
  obtain ⟨conversions, order, redescribes⟩ := describes.reorder perm
  refine ⟨_, generateType_eq_value_iff.mpr ⟨accepted, _, redescribes, rfl⟩, ?_⟩
  exact {
    name := rfl
    moduleName := rfl
    targets := conversionTargets_perm perm
    lines := by
      refine ⟨b.sections.lines, b.conversionBlock f, ?_, ?_, ?_⟩
      · rw [lines_document, describes.flatMap_conversions]
      · rw [lines_document, redescribes.flatMap_conversions, sections_withConversions b order]
        rfl
      · exact fun target member => describes.isConversionBlock member
    siblings := by
      rw [siblings_document, siblings_document, relatedTypes_withConversions b order] }

/-- The answer for a type depends on the cubic families of the catalog only, and on none of them if
the type is not cubic itself. Their order does not decide whether the type is generated: it shows in
the conversions at the end of the document and nowhere else. -/
theorem generateType_depends_on_cubicFamilies (first second : Catalog) (f : Family)
    (number : Nat) :
    (f.degree ≠ 3 ∨ first.cubicFamilies = second.cubicFamilies →
      generateType first f number = generateType second f number) ∧
    (first.cubicFamilies.Perm second.cubicFamilies →
      ((∃ document, (generateType first f number).run = .ok (.ok document)) ↔
        ∃ document, (generateType second f number).run = .ok (.ok document)) ∧
      ∀ document other, (generateType first f number).run = .ok (.ok document) →
        (generateType second f number).run = .ok (.ok other) →
        Reordered first second f number document other) := by
  refine ⟨fun same => generateType_congr (conversionTargets_congr same), fun perm => ⟨?_, ?_⟩⟩
  · constructor
    · rintro ⟨document, generated⟩
      obtain ⟨other, regenerated, -⟩ := exists_reordered perm generated
      exact ⟨other, regenerated⟩
    · rintro ⟨document, generated⟩
      obtain ⟨other, regenerated, -⟩ := exists_reordered perm.symm generated
      exact ⟨other, regenerated⟩
  · intro document other generated regenerated
    obtain ⟨_, same, reordered⟩ := exists_reordered perm generated
    cases same.symm.trans regenerated
    exact reordered

def Catalog.reversed : Catalog := ⟨Catalog.standard.entries.reverse⟩

/-- In the plane, the opposite order moves the conversions of the Hermite curve; the quadratic
Bézier curve does not change. -/
theorem generateType_depends_on_cubicFamilies_reversed :
    generateType Catalog.standard Catalog.bezierQuadratic 2 =
      generateType Catalog.reversed Catalog.bezierQuadratic 2 ∧
    ∃ document other,
      (generateType Catalog.standard Catalog.hermite 2).run = .ok (.ok document) ∧
      (generateType Catalog.reversed Catalog.hermite 2).run = .ok (.ok other) ∧
      Reordered Catalog.standard Catalog.reversed Catalog.hermite 2 document other ∧
      conversionTargets Catalog.standard Catalog.hermite ≠
        conversionTargets Catalog.reversed Catalog.hermite := by
  have perm : Catalog.standard.cubicFamilies.Perm Catalog.reversed.cubicFamilies :=
    ((List.reverse_perm _).symm.map _).filter _
  obtain ⟨document, generated⟩ := Generation.exists_value_of_isSome
    (by decide +kernel : ((generateType Catalog.standard Catalog.hermite 2).run.toOption.bind
      Except.toOption).isSome = true)
  obtain ⟨answered, agree⟩ := (generateType_depends_on_cubicFamilies Catalog.standard
    Catalog.reversed Catalog.hermite 2).2 perm
  obtain ⟨other, regenerated⟩ := answered.mp ⟨document, generated⟩
  refine ⟨?_, document, other, generated, regenerated, agree document other generated regenerated,
    by decide⟩
  exact (generateType_depends_on_cubicFamilies _ _ _ _).1 (.inl (by decide))

end CurveForge
