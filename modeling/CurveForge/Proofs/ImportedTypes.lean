import Mathlib
import CurveForge.Proofs.ConversionGraph
import CurveForge.Proofs.Naming.Identity

/-!
# Imported types

A type imports the types that it converts into, whether or not these are generated.
A cubic type is refused exactly if some other cubic family has a singular matrix.
The imports of a document can therefore lead nowhere only if the singular matrix is
the one of its own family, which keeps all the others from being generated.
-/

namespace CurveForge

open Source Blueprint

def Family.IsSingular (f : Family) : Prop := f.matrix.inverse? = .ok none

instance (f : Family) : Decidable f.IsSingular := inferInstanceAs (Decidable (_ = _))

namespace SquareMatrix

variable {source target : SquareMatrix}

/-- Between matrices of one size, only a singular target is refused. -/
theorem inverse?_of_refused {reason : GenerationError} (same : source.size = target.size)
    (refused : (source.conversion target).run = .ok (.error reason)) :
    target.inverse? = .ok none := by
  rw [conversion_of_size_eq same] at refused
  obtain ⟨result, inverted, refused⟩ := Checked.bind_eq_ok_iff.mp refused
  cases result with
  | none => exact inverted
  | some inverse =>
      obtain ⟨product, -, done⟩ := Checked.bind_eq_ok_iff.mp refused
      cases done

end SquareMatrix

variable {catalog : Catalog} {f g : Family} {d : Dimension}

/-- A type is generated from the matrices that it converts into, none of which is singular. -/
theorem regular_of_generateType {document : Document}
    (generated : (generateType catalog f d.number).run = .ok (.ok document)) :
    ∀ target ∈ conversionTargets catalog f, ¬target.IsSingular := by
  intro target member singular
  obtain ⟨b, describes, -, -⟩ := describes_of_generateType generated
  obtain ⟨c, -, conversion⟩ := describes.exists_conversion member
  obtain ⟨-, matrix, computed, -⟩ := parts_of_conversionTo conversion
  obtain ⟨inverse, inverted, -⟩ := SquareMatrix.parts_of_conversion computed
  cases singular.symm.trans inverted

theorem singular_of_conversionTo {target : Family} {reason : GenerationError}
    (fits : f.WellFormed) (targetFits : target.WellFormed)
    (member : target ∈ conversionTargets catalog f)
    (refused : (conversionTo f d target).run = .ok (.error reason)) : target.IsSingular := by
  obtain ⟨-, cubic, targetCubic, -⟩ := mem_conversionTargets_iff.mp member
  have sizes : f.matrix.size = target.matrix.size := by
    rw [fits.matrix_size, targetFits.matrix_size, cubic, targetCubic]
  rcases Generation.run_answer_bind_eq_reason_iff.mp refused with unnamed | ⟨name, -, refused⟩
  · cases (target.typeName_cubic targetCubic d).symm.trans unnamed
  rcases Generation.run_bind_eq_reason_iff.mp refused with refused | ⟨matrix, -, refused⟩
  · exact SquareMatrix.inverse?_of_refused sizes refused
  obtain ⟨formulas, -, done⟩ := Generation.run_compute_bind_eq_reason_iff.mp refused
  cases done

theorem Catalog.wellFormed_of_mem (listed : f ∈ catalog.families) : f.WellFormed := by
  obtain ⟨entry, -, rfl⟩ := List.mem_map.mp listed
  exact .of_validate entry.valid

/-- A cubic type of the catalog is refused because of a singular family that it converts into. -/
theorem singular_of_generateType {reason : GenerationError} (listed : f ∈ catalog.families)
    (cubic : f.degree = 3)
    (refused : (generateType catalog f d.number).run = .ok (.error reason)) :
    ∃ target ∈ conversionTargets catalog f, target.IsSingular := by
  have fits := Catalog.wellFormed_of_mem listed
  obtain ⟨⟨f, accepted⟩, -, rfl⟩ := List.mem_map.mp listed
  obtain ⟨cast, casted⟩ := castTarget?_ok d fits.degree_pos (by omega)
  obtain ⟨word, worded⟩ := degreeName_of_le .long fits.degree_pos (by omega)
  unfold generateType at refused
  rw [Family.check_of_valid accepted, pure_bind, Generation.run_bind_eq_reason_iff] at refused
  rcases refused with refused | ⟨b, -, done⟩
  · unfold ofFamily at refused
    rw [Dimension.ofNumber_number, Generation.answer_bind, Family.typeName_cubic cubic,
      Generation.answer_bind, worded, Generation.answer_bind, casted,
      Generation.answer_bind] at refused
    obtain ⟨curve, -, refused⟩ := Generation.run_compute_bind_eq_reason_iff.mp refused
    obtain ⟨ends, -, refused⟩ := Generation.run_compute_bind_eq_reason_iff.mp refused
    obtain ⟨splittable, -, refused⟩ := Generation.run_compute_bind_eq_reason_iff.mp refused
    rcases Generation.run_bind_eq_reason_iff.mp refused with refused | ⟨conversions, -, done⟩
    · obtain ⟨target, member, failed⟩ := Generation.run_mapM_eq_reason refused
      have targetFits := Catalog.wellFormed_of_mem (mem_conversionTargets_iff.mp member).1
      exact ⟨target, member, singular_of_conversionTo fits targetFits member failed⟩
    · cases done
  · cases done

/-- A type with the name of a cubic type is that type. -/
theorem cubicType_of_typeName {t : CubicType} (named : f.typeName d.number = .ok t.name) :
    f.degree = 3 ∧ f.cubicType d = t := by
  obtain ⟨word, worded, spelled⟩ := Checked.bind_eq_ok_iff.mp named
  have same : f.id ++ word ++ d.text = t.id ++ "Cubic" ++ t.dimension.text := by
    rw [Dimension.text, ← String.append_assoc]
    exact Except.ok.inj spelled
  have spelled := congrArg String.toList same
  simp only [String.toList_append] at spelled
  obtain ⟨stems, texts⟩ := List.append_inj' spelled
    ((CubicType.length_text d).trans (CubicType.length_text t.dimension).symm)
  obtain ⟨fronts, cubic⟩ := tellsDegrees_toList.word_inj worded (n := 3) rfl stems
  have ids : f.id = t.id := String.toList_inj.mp fronts
  have dimensions : d = t.dimension := CubicType.text_injective (String.toList_inj.mp texts)
  exact ⟨cubic, by rw [Family.cubicType, ids, dimensions]⟩

section Batch

variable {results : List (Except TaskError Document)} (generated : generateAll catalog = .ok results)

include generated

/-- Every task of a batch answers. -/
theorem exists_answer_of_generateAll (listed : f ∈ catalog.families) (d : Dimension) :
    ∃ answer, (generateType catalog f d.number).run = .ok answer := by
  have related := Checked.mapM_eq_ok_iff.mp generated
  have member : ⟨f, d.number⟩ ∈ catalog.tasks := by
    rw [tasks_eq]
    exact List.mem_map.mpr ⟨(d, f), mem_generated_iff.mpr listed, rfl⟩
  obtain ⟨result, -, ran⟩ := exists_of_forall₂_of_mem related.flip member
  obtain ⟨answer, answered, -⟩ := Checked.bind_eq_ok_iff.mp ran
  exact ⟨answer, answered⟩

/-- A cubic type is generated exactly if all families that it converts into are regular. -/
theorem exists_document_iff (listed : f ∈ catalog.families) (cubic : f.degree = 3)
    (d : Dimension) :
    (∃ document, (generateType catalog f d.number).run = .ok (.ok document)) ↔
      ∀ target ∈ conversionTargets catalog f, ¬target.IsSingular := by
  constructor
  · rintro ⟨document, success⟩
    exact regular_of_generateType success
  · intro regular
    obtain ⟨answer, answered⟩ := exists_answer_of_generateAll generated listed d
    cases answer with
    | ok document => exact ⟨document, answered⟩
    | error reason =>
        obtain ⟨target, member, singular⟩ := singular_of_generateType listed cubic answered
        exact absurd singular (regular target member)

/-- A cubic type stands among the documents exactly if a family with its identifier is generated. -/
theorem mem_names_iff (t : CubicType) :
    t.name ∈ (results.filterMap Except.toOption).map Document.name ↔
      ∃ g ∈ catalog.families, g.degree = 3 ∧ g.cubicType t.dimension = t ∧
        ∀ target ∈ conversionTargets catalog g, ¬target.IsSingular := by
  constructor
  · intro member
    obtain ⟨document, written, same⟩ := List.mem_map.mp member
    obtain ⟨⟨d, g⟩, listed, success⟩ := exists_task_of_mem_documents generated written
    obtain ⟨b, describes, -, rfl⟩ := describes_of_generateType success
    have named : g.typeName d.number = .ok t.name := same ▸ describes.name
    obtain ⟨cubic, rfl⟩ := cubicType_of_typeName named
    exact ⟨g, mem_generated_iff.mp listed, cubic, rfl, regular_of_generateType success⟩
  · rintro ⟨g, listed, cubic, same, regular⟩
    obtain ⟨document, success⟩ :=
      (exists_document_iff generated listed cubic t.dimension).mpr regular
    have task : ⟨g, t.dimension.number⟩ ∈ catalog.tasks := by
      rw [tasks_eq]
      exact List.mem_map.mpr ⟨(t.dimension, g), mem_generated_iff.mpr listed, rfl⟩
    refine List.mem_map.mpr ⟨document, mem_documents_of_task generated task success, ?_⟩
    obtain ⟨b, describes, -, rfl⟩ := describes_of_generateType success
    have named := g.typeName_cubic cubic t.dimension
    rw [same] at named
    exact Except.ok.inj (describes.name.symm.trans named)

end Batch

/-- A cubic family of the catalog has the identifier of the family and a singular matrix. -/
def Family.HasSingularNamesake (catalog : Catalog) (f : Family) : Prop :=
  ∃ g ∈ catalog.families, g.degree = 3 ∧ g.id = f.id ∧ g.IsSingular

instance (catalog : Catalog) (f : Family) : Decidable (f.HasSingularNamesake catalog) :=
  List.decidableBEx _ _

/-- The name of one of the documents, which the index of modules declares and exports. -/
def Exported (documents : List Document) (name : String) : Prop :=
  ∃ document ∈ documents, document.name = name ∧
    "mod " ++ document.moduleName ++ ";" ∈ (moduleIndex documents).lines ∧
    "pub use " ++ document.moduleName ++ "::" ++ name ++ ";" ∈ (moduleIndex documents).lines

theorem exported_iff {documents : List Document} {name : String} :
    Exported documents name ↔ name ∈ documents.map Document.name := by
  rw [List.mem_map]
  refine exists_congr fun document => and_congr_right fun member => and_iff_left_of_imp ?_
  rintro rfl
  rw [lines_moduleIndex]
  constructor
  · simp only [List.mem_append]
    exact .inl (.inl (.inr (List.mem_map.mpr ⟨document, member, rfl⟩)))
  · simp only [List.mem_append]
    exact .inr (List.mem_map.mpr ⟨document, member, rfl⟩)

/-- All types that a family is converted into are generated together with it, unless one of its
namesakes keeps them from being generated. -/
theorem targets_generated_iff {results : List (Except TaskError Document)}
    (generated : generateAll catalog = .ok results) (listed : f ∈ catalog.families)
    {document : Document}
    (success : (generateType catalog f d.number).run = .ok (.ok document)) :
    (∀ t ∈ cubicTargets catalog f d,
        t.name ∈ (results.filterMap Except.toOption).map Document.name) ↔
      (conversionTargets catalog f = [] ∨ ¬f.HasSingularNamesake catalog) := by
  have regular := regular_of_generateType success
  constructor
  · intro all
    by_contra! both
    obtain ⟨nonempty, s, singularListed, singularCubic, namesake, singular⟩ := both
    obtain ⟨g, member⟩ := List.exists_mem_of_ne_nil _ nonempty
    obtain ⟨-, -, -, other⟩ := mem_conversionTargets_iff.mp member
    have target := all (g.cubicType d) (mem_cubicTargets_iff.mpr (.inr ⟨g, member, rfl⟩))
    obtain ⟨h, -, cubic, same, others⟩ := (mem_names_iff generated _).mp target
    have ids : h.id = g.id := congrArg CubicType.id same
    refine others s ?_ singular
    exact mem_conversionTargets_iff.mpr
      ⟨singularListed, cubic, singularCubic, fun equal => other (ids ▸ equal ▸ namesake)⟩
  · intro condition t member
    have cubic := cubic_of_mem_cubicTargets member
    rw [mem_names_iff generated]
    rcases mem_cubicTargets_iff.mp member with ⟨e, -, rfl⟩ | ⟨g, found, rfl⟩
    · exact ⟨f, listed, cubic, rfl, regular⟩
    · obtain ⟨targetListed, -, targetCubic, other⟩ := mem_conversionTargets_iff.mp found
      refine ⟨g, targetListed, targetCubic, rfl, fun target targetMember singular => ?_⟩
      obtain ⟨singularListed, -, singularCubic, -⟩ := mem_conversionTargets_iff.mp targetMember
      by_cases namesake : target.id = f.id
      · have nonempty := List.ne_nil_of_mem found
        exact condition.resolve_left nonempty
          ⟨target, singularListed, singularCubic, namesake, singular⟩
      · exact regular target
          (mem_conversionTargets_iff.mpr ⟨singularListed, cubic, singularCubic, namesake⟩) singular

/-- The documents of a batch are those of its families. Each of them imports the types that its
family is converted into; all of these are documents of the batch, unless the family is converted
into others and a cubic family with its identifier has a singular matrix. -/
theorem imports_exported_iff {results : List (Except TaskError Document)}
    (generated : generateAll catalog = .ok results) :
    let documents := results.filterMap Except.toOption
    (∀ document ∈ documents, ∃ f ∈ catalog.families, ∃ d : Dimension,
      (generateType catalog f d.number).run = .ok (.ok document)) ∧
    ∀ f ∈ catalog.families, ∀ (d : Dimension) (document : Document),
      (generateType catalog f d.number).run = .ok (.ok document) →
      ∃ names : List String, names.Perm ((cubicTargets catalog f d).map CubicType.name) ∧
        startingWith Tie.siblings.start document.lines = importLines names ∧
        ((∀ name ∈ names, Exported documents name) ↔
          conversionTargets catalog f = [] ∨ ¬f.HasSingularNamesake catalog) := by
  intro documents
  constructor
  · intro document member
    obtain ⟨⟨d, f⟩, listed, success⟩ := exists_task_of_mem_documents generated member
    exact ⟨f, mem_generated_iff.mp listed, d, success⟩
  · intro f listed d document success
    obtain ⟨names, perm, -, imports⟩ := imports_of_generateType success
    refine ⟨names, perm, imports, ?_⟩
    rw [← targets_generated_iff generated listed success]
    simp only [exported_iff, perm.mem_iff, List.forall_mem_map]
    rfl

/-- In the plane, the Hermite curve imports two types, and both are generated. -/
theorem imports_exported_iff_hermite :
    ∃ results, generateAll Catalog.bezierAndHermite = .ok results ∧
    ∃ document,
      (generateType Catalog.bezierAndHermite Catalog.hermite 2).run = .ok (.ok document) ∧
      ∃ names : List String, names.Perm ["HermiteCubic3D", "BezierCubic2D"] ∧
        startingWith Tie.siblings.start document.lines = importLines names ∧
        ∀ name ∈ names, Exported (results.filterMap Except.toOption) name := by
  obtain ⟨documents, generated⟩ :=
    exists_documents (by decide +kernel : ((generateAll Catalog.bezierAndHermite).toOption.any
      fun results => results.all fun result => result.toOption.isSome) = true)
  have listed : Catalog.hermite ∈ Catalog.bezierAndHermite.families := by decide
  have regular : ∀ target ∈ conversionTargets Catalog.bezierAndHermite Catalog.hermite,
      ¬target.IsSingular := by
    decide +kernel
  obtain ⟨document, success⟩ := (exists_document_iff generated listed rfl .two).mpr regular
  obtain ⟨names, perm, imports, exported⟩ :=
    (imports_exported_iff generated).2 Catalog.hermite listed .two document success
  exact ⟨_, generated, document, success, names, perm, imports,
    exported.mpr (.inr (by decide +kernel))⟩

def Catalog.flatBezier : Family := { bezierCubic with matrix := ⟨4, Grid.zeros 4⟩ }

def Catalog.flattened : Catalog := ⟨[⟨flatBezier, by rfl⟩, ⟨hermite, hermite_valid⟩]⟩

/-- The singular family is generated and imports a type that is not. -/
theorem imports_of_flattened_lost :
    ∃ results, generateAll Catalog.flattened = .ok results ∧
      ∃ document ∈ results.filterMap Except.toOption,
        "use super::HermiteCubic1D;" ∈ document.lines ∧
        ¬Exported (results.filterMap Except.toOption) "HermiteCubic1D" := by
  have lost : ((generateAll Catalog.flattened).toOption.any fun results =>
      let documents := results.filterMap Except.toOption
      (documents.any fun document => "use super::HermiteCubic1D;" ∈ document.lines) &&
        "HermiteCubic1D" ∉ documents.map Document.name) = true := by
    decide +kernel
  cases generated : generateAll Catalog.flattened with
  | error fault =>
      rw [generated] at lost
      cases lost
  | ok results =>
      rw [generated] at lost
      obtain ⟨importing, absent⟩ := Bool.and_eq_true_iff.mp lost
      obtain ⟨document, member, imported⟩ := List.any_eq_true.mp importing
      exact ⟨results, rfl, document, member, of_decide_eq_true imported,
        fun exported => of_decide_eq_true absent (exported_iff.mp exported)⟩

end CurveForge
