import Mathlib
import CurveForge.Proofs.Batch
import CurveForge.Proofs.Document.CubicTypes

/-!
# The graph of conversions

The documents of a catalog convert every type of cubic segments into those of the
same dimension and cast it between plane and space. Over all documents together
no conversion is written twice, and each document imports exactly the types that
it converts into.
-/

namespace CurveForge

open Source Blueprint

/-- Which types, known by their names, are to be converted into which. -/
inductive Catalog.Converts (catalog : Catalog) : String → String → Prop where
  | basis {f g : Family} {d : Dimension} {source target : String}
      (listed : f ∈ catalog.families) (cubic : f.degree = 3)
      (targetListed : g ∈ catalog.families) (targetCubic : g.degree = 3) (other : f.id ≠ g.id)
      (named : f.typeName d.number = .ok source) (targetNamed : g.typeName d.number = .ok target) :
      Catalog.Converts catalog source target
  | raise {f : Family} {source target : String} (listed : f ∈ catalog.families)
      (cubic : f.degree = 3) (named : f.typeName 2 = .ok source)
      (targetNamed : f.typeName 3 = .ok target) : Catalog.Converts catalog source target
  | flatten {f : Family} {source target : String} (listed : f ∈ catalog.families)
      (cubic : f.degree = 3) (named : f.typeName 3 = .ok source)
      (targetNamed : f.typeName 2 = .ok target) : Catalog.Converts catalog source target

variable {catalog : Catalog} {documents : List Document}

def edgesFrom (catalog : Catalog) (p : Dimension × Family) : List (CubicType × CubicType) :=
  (cubicTargets catalog p.2 p.1).map fun t => (p.2.cubicType p.1, t)

def edges (catalog : Catalog) : List (CubicType × CubicType) :=
  catalog.generated.flatMap (edgesFrom catalog)

theorem mem_edges_iff {s t : CubicType} :
    (s, t) ∈ edges catalog ↔ ∃ f ∈ catalog.families,
      f.cubicType s.dimension = s ∧ t ∈ cubicTargets catalog f s.dimension := by
  simp only [edges, edgesFrom, List.mem_flatMap, List.mem_map, mem_generated_iff]
  constructor
  · rintro ⟨⟨d, f⟩, listed, target, member, same⟩
    cases same
    exact ⟨f, listed, rfl, member⟩
  · rintro ⟨f, listed, same, member⟩
    exact ⟨(s.dimension, f), listed, t, member, Prod.ext same rfl⟩

theorem nodup_edges (distinct : catalog.Distinct) : (edges catalog).Nodup := by
  have dimensions : Dimension.all.Nodup := by decide
  rw [edges, List.nodup_flatMap]
  constructor
  · rintro ⟨d, f⟩ -
    exact (nodup_cubicTargets distinct f d).map fun _ _ same => congrArg Prod.snd same
  · refine (dimensions.product distinct.of_map).imp_of_mem ?_
    rintro ⟨d, f⟩ ⟨e, g⟩ listed otherListed different edge member otherMember
    obtain ⟨t, target, rfl⟩ := List.mem_map.mp member
    obtain ⟨u, otherTarget, same⟩ := List.mem_map.mp otherMember
    have sources : g.cubicType e = f.cubicType d := congrArg Prod.fst same
    apply different
    refine Prod.ext (congrArg CubicType.dimension sources).symm ?_
    exact distinct.eq_of_id_eq (mem_generated_iff.mp listed) (mem_generated_iff.mp otherListed)
      (cubic_of_mem_cubicTargets target) (cubic_of_mem_cubicTargets otherTarget)
      (congrArg CubicType.id sources).symm

theorem nodup_targets (distinct : catalog.Distinct) (p : Dimension × Family) :
    ((edgesFrom catalog p).map fun edge => edge.2.name).Nodup := by
  rw [edgesFrom, List.map_map]
  exact (nodup_cubicTargets distinct p.2 p.1).map CubicType.name_injective

/-- The conversions of a catalog are those that are to be written. -/
theorem converts_iff {source target : String} :
    catalog.Converts source target ↔
      ∃ s t, (s, t) ∈ edges catalog ∧ s.name = source ∧ t.name = target := by
  constructor
  · intro converts
    cases converts with
    | @basis f g d _ _ listed cubic targetListed targetCubic other named targetNamed =>
        refine ⟨f.cubicType d, g.cubicType d, mem_edges_iff.mpr ⟨f, listed, rfl, ?_⟩,
          Except.ok.inj ((f.typeName_cubic cubic d).symm.trans named),
          Except.ok.inj ((g.typeName_cubic targetCubic d).symm.trans targetNamed)⟩
        have member := mem_conversionTargets_iff.mpr ⟨targetListed, cubic, targetCubic, other.symm⟩
        exact mem_cubicTargets_iff.mpr (.inr ⟨g, member, rfl⟩)
    | @raise f _ _ listed cubic named targetNamed =>
        refine ⟨f.cubicType .two, f.cubicType .three, mem_edges_iff.mpr ⟨f, listed, rfl, ?_⟩,
          Except.ok.inj ((f.typeName_cubic cubic .two).symm.trans named),
          Except.ok.inj ((f.typeName_cubic cubic .three).symm.trans targetNamed)⟩
        have cast := castDimension?_eq_some_iff.mpr ⟨cubic, .inl ⟨rfl, rfl⟩⟩
        exact mem_cubicTargets_iff.mpr (.inl ⟨.three, cast, rfl⟩)
    | @flatten f _ _ listed cubic named targetNamed =>
        refine ⟨f.cubicType .three, f.cubicType .two, mem_edges_iff.mpr ⟨f, listed, rfl, ?_⟩,
          Except.ok.inj ((f.typeName_cubic cubic .three).symm.trans named),
          Except.ok.inj ((f.typeName_cubic cubic .two).symm.trans targetNamed)⟩
        have cast := castDimension?_eq_some_iff.mpr ⟨cubic, .inr ⟨rfl, rfl⟩⟩
        exact mem_cubicTargets_iff.mpr (.inl ⟨.two, cast, rfl⟩)
  · rintro ⟨⟨id, d⟩, t, edge, rfl, rfl⟩
    obtain ⟨f, listed, same, member⟩ := mem_edges_iff.mp edge
    rw [← same]
    rcases mem_cubicTargets_iff.mp member with ⟨e, cast, rfl⟩ | ⟨g, found, rfl⟩
    · obtain ⟨cubic, ⟨rfl, rfl⟩ | ⟨rfl, rfl⟩⟩ := castDimension?_eq_some_iff.mp cast
      · exact .raise listed cubic (f.typeName_cubic cubic .two) (f.typeName_cubic cubic .three)
      · exact .flatten listed cubic (f.typeName_cubic cubic .three) (f.typeName_cubic cubic .two)
    · obtain ⟨targetListed, cubic, targetCubic, other⟩ := mem_conversionTargets_iff.mp found
      exact .basis listed cubic targetListed targetCubic other.symm (f.typeName_cubic cubic d)
        (g.typeName_cubic targetCubic d)

/-- The ties of the document of a family in a dimension: the conversions out of its type, and the
imports of the types that they lead to. -/
structure Tied (catalog : Catalog) (p : Dimension × Family) (document : Document) : Prop where
  conversions : startingWith Tie.conversion.start document.lines =
    (edgesFrom catalog p).map fun edge => conversionLine edge.1.name edge.2.name
  imports : ∃ names : List String, names.Perm ((edgesFrom catalog p).map fun edge => edge.2.name) ∧
    names.Pairwise (· ≤ ·) ∧ startingWith Tie.siblings.start document.lines = importLines names

theorem tied_of_generateType {p : Dimension × Family} {document : Document}
    (alphanumeric : p.2.HasAlphanumericId)
    (generated : (generateType catalog p.2 p.1.number).run = .ok (.ok document)) :
    Tied catalog p document := by
  obtain ⟨d, f⟩ := p
  have imports := imports_of_generateType generated
  obtain ⟨b, describes, -, rfl⟩ := describes_of_generateType generated
  have plain : '<' ∉ b.name.toList :=
    alphanumeric.not_mem_typeName describes.name (by decide) (by decide)
  constructor
  · rw [conversions_document b plain, describes.targets_eq, describes.dimension_eq, edgesFrom,
      List.map_map, List.map_map]
    refine List.map_congr_left fun t member => ?_
    have named := f.typeName_cubic (cubic_of_mem_cubicTargets member) d
    have same : b.name = (f.cubicType d).name :=
      Except.ok.inj (describes.name.symm.trans named)
    exact congrArg (conversionLine · t.name) same
  · rw [edgesFrom, List.map_map]
    exact imports

section Whole

variable (alphanumeric : ∀ f ∈ catalog.families, f.HasAlphanumericId)
  (generated : generateAll catalog = .ok (documents.map .ok))

include alphanumeric generated

theorem tied_of_generateAll : List.Forall₂ (Tied catalog) catalog.generated documents := by
  have plain : ∀ p ∈ catalog.generated, p.2.HasAlphanumericId := fun p member =>
    alphanumeric p.2 (mem_generated_iff.mp member)
  have both := (List.forall₂_and_left _ _).mpr ⟨plain, documents_of_generateAll generated⟩
  exact both.imp fun p document related => tied_of_generateType related.1 related.2

/-- All conversions are written, document by document. -/
theorem conversionLines_eq :
    startingWith Tie.conversion.start (documents.flatMap Document.lines) =
      (edges catalog).map fun edge => conversionLine edge.1.name edge.2.name := by
  have tied := tied_of_generateAll alphanumeric generated
  have images := map_eq_map_of_forall₂ (tied.imp fun p document related =>
    related.conversions.symm)
  rw [edges, List.map_flatMap, startingWith_flatMap, List.flatMap_def, List.flatMap_def]
  exact congrArg List.flatten images.symm

end Whole

/-- Names of types that stand for conversions have no angle brackets. -/
theorem plain_of_mem_edges (alphanumeric : ∀ f ∈ catalog.families, f.HasAlphanumericId)
    {s t : CubicType} (edge : (s, t) ∈ edges catalog) :
    '>' ∉ s.name.toList ∧ '>' ∉ t.name.toList := by
  have plain {f : Family} (listed : f ∈ catalog.families) (cubic : f.degree = 3) (d : Dimension) :
      '>' ∉ (f.cubicType d).name.toList :=
    (alphanumeric f listed).not_mem_typeName (f.typeName_cubic cubic d) (by decide) (by decide)
  obtain ⟨f, listed, source, member⟩ := mem_edges_iff.mp edge
  obtain ⟨g, targetListed, targetCubic, target⟩ := exists_family_of_mem_cubicTargets listed member
  constructor
  · rw [← source]
    exact plain listed (cubic_of_mem_cubicTargets member) _
  · rw [← target]
    exact plain targetListed targetCubic _

/-- The line of a conversion of the catalog shows both of its types. -/
theorem names_of_conversionLine_eq (alphanumeric : ∀ f ∈ catalog.families, f.HasAlphanumericId)
    {s t : CubicType} (edge : (s, t) ∈ edges catalog) {source target : String}
    (same : conversionLine s.name t.name = conversionLine source target) :
    s.name = source ∧ t.name = target := by
  obtain ⟨plain, targetPlain⟩ := plain_of_mem_edges alphanumeric edge
  exact conversionLine_inj plain targetPlain same

theorem mem_startingWith_conversion {source target : String} {lines : List String} :
    conversionLine source target ∈ startingWith Tie.conversion.start lines ↔
      conversionLine source target ∈ lines :=
  List.mem_filter.trans (and_iff_left (startsWith_conversionLine source target))

theorem nodup_conversionLines (distinct : catalog.Distinct)
    (alphanumeric : ∀ f ∈ catalog.families, f.HasAlphanumericId) :
    ((edges catalog).map fun edge => conversionLine edge.1.name edge.2.name).Nodup := by
  refine (nodup_edges distinct).map_on ?_
  rintro ⟨s, t⟩ edge ⟨u, v⟩ - same
  obtain ⟨sources, targets⟩ := names_of_conversionLine_eq alphanumeric edge same
  exact Prod.ext (CubicType.name_injective sources) (CubicType.name_injective targets)

theorem mem_conversionLines_iff (alphanumeric : ∀ f ∈ catalog.families, f.HasAlphanumericId)
    {source target : String} :
    (conversionLine source target ∈ (edges catalog).map fun edge =>
      conversionLine edge.1.name edge.2.name) ↔ catalog.Converts source target := by
  rw [converts_iff, List.mem_map]
  constructor
  · rintro ⟨⟨s, t⟩, edge, same⟩
    exact ⟨s, t, edge, names_of_conversionLine_eq alphanumeric edge same⟩
  · rintro ⟨s, t, edge, rfl, rfl⟩
    exact ⟨(s, t), edge, rfl⟩

/-- A document imports the types that its own conversions lead to. -/
theorem Tied.exists_imports (distinct : catalog.Distinct)
    (alphanumeric : ∀ f ∈ catalog.families, f.HasAlphanumericId) {p : Dimension × Family}
    {document : Document} (tied : Tied catalog p document) (listed : p ∈ catalog.generated) :
    ∃ names : List String, names.Pairwise (· < ·) ∧
      (∀ target, target ∈ names ↔ ∃ source, conversionLine source target ∈ document.lines) ∧
      startingWith Tie.siblings.start document.lines = importLines names := by
  obtain ⟨names, perm, sorted, imports⟩ := tied.imports
  have once : names.Nodup := perm.nodup_iff.mpr (nodup_targets distinct p)
  refine ⟨names, sorted.and once |>.imp fun both => lt_of_le_of_ne both.1 both.2, ?_, imports⟩
  intro target
  simp only [← mem_startingWith_conversion, tied.conversions, perm.mem_iff, List.mem_map]
  constructor
  · rintro ⟨edge, found, rfl⟩
    exact ⟨edge.1.name, edge, found, rfl⟩
  · rintro ⟨source, ⟨s, t⟩, found, same⟩
    have edge : (s, t) ∈ edges catalog := List.mem_flatMap.mpr ⟨p, listed, found⟩
    exact ⟨(s, t), found, (names_of_conversionLine_eq alphanumeric edge same).2⟩

/-- Over all documents, every line that starts a conversion is written once, and the conversions are
those of the catalog. Each document imports, in the order of their names and without repetition, the
types that it converts into. -/
theorem conversionLines_cover_graph (distinct : catalog.Distinct)
    (alphanumeric : ∀ f ∈ catalog.families, f.HasAlphanumericId)
    (generated : generateAll catalog = .ok (documents.map .ok)) :
    let lines := documents.flatMap Document.lines
    (startingWith Tie.conversion.start lines).Nodup ∧
    (∀ line ∈ startingWith Tie.conversion.start lines,
      ∃ source target, line = conversionLine source target) ∧
    (∀ source target, conversionLine source target ∈ lines ↔ catalog.Converts source target) ∧
    ∀ document ∈ documents, ∃ names : List String,
      names.Pairwise (· < ·) ∧
      (∀ target, target ∈ names ↔ ∃ source, conversionLine source target ∈ document.lines) ∧
      startingWith Tie.siblings.start document.lines = importLines names := by
  intro lines
  have written := conversionLines_eq alphanumeric generated
  refine ⟨?_, ?_, ?_, ?_⟩
  · rw [written]
    exact nodup_conversionLines distinct alphanumeric
  · intro line member
    rw [written] at member
    obtain ⟨edge, -, rfl⟩ := List.mem_map.mp member
    exact ⟨_, _, rfl⟩
  · intro source target
    rw [← mem_startingWith_conversion, written]
    exact mem_conversionLines_iff alphanumeric
  · intro document member
    obtain ⟨p, listed, tied⟩ :=
      exists_of_forall₂_of_mem (tied_of_generateAll alphanumeric generated) member
    exact tied.exists_imports distinct alphanumeric listed

namespace Catalog

theorem bezierCubic_valid : bezierCubic.validate = pure () := by rfl

theorem hermite_valid : hermite.validate = pure () := by rfl

/-- Families of two degrees, of which two are cubic. -/
def bezierAndHermite : Catalog :=
  ⟨[⟨bezierCubic, bezierCubic_valid⟩, ⟨bezierQuadratic, bezierQuadratic_valid⟩,
    ⟨hermite, hermite_valid⟩]⟩

end Catalog

/-- No task fails for Bézier and Hermite curves, and the latter become the former in the plane. -/
theorem conversionLines_cover_graph_bezier :
    ∃ documents : List Document, generateAll Catalog.bezierAndHermite = .ok (documents.map .ok) ∧
      (startingWith Tie.conversion.start (documents.flatMap Document.lines)).Nodup ∧
      conversionLine "HermiteCubic2D" "BezierCubic2D" ∈ documents.flatMap Document.lines := by
  obtain ⟨documents, generated⟩ :=
    exists_documents (by decide +kernel : ((generateAll Catalog.bezierAndHermite).toOption.any
      fun results => results.all fun result => result.toOption.isSome) = true)
  obtain ⟨once, -, covered, -⟩ :=
    conversionLines_cover_graph (by decide) (by decide +kernel) generated
  have converts : Catalog.bezierAndHermite.Converts "HermiteCubic2D" "BezierCubic2D" :=
    .basis (f := Catalog.hermite) (g := Catalog.bezierCubic) (d := .two)
      (.tail _ (.tail _ (.head _))) rfl (.head _) rfl (by decide) rfl rfl
  exact ⟨documents, generated, once, (covered _ _).mpr converts⟩

end CurveForge
