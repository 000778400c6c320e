import Mathlib
import CurveForge.Proofs.Document.Generate
import CurveForge.Proofs.Document.Ties

/-!
# Types of cubic segments

A type of cubic segments is known by the identifier of its family and by its
dimension. If families of one degree have different identifiers, no two types have
the same name, and every type is converted at most once into any other.
-/

namespace CurveForge

/-- A type of cubic segments. -/
structure CubicType where
  id : String
  dimension : Dimension
  deriving DecidableEq

namespace CubicType

def name (t : CubicType) : String := t.id ++ "Cubic" ++ t.dimension.text

theorem length_text (d : Dimension) : d.text.toList.length = 2 := by
  cases d <;> rfl

theorem text_injective : Function.Injective Dimension.text := by
  intro d e same
  cases d <;> cases e <;> first | rfl | exact absurd same (by decide)

/-- The dimension can be told from the last two characters of a name. -/
theorem name_injective : Function.Injective name := by
  rintro ⟨id, d⟩ ⟨other, e⟩ same
  have spelled := congrArg String.toList same
  simp only [name, String.toList_append] at spelled
  obtain ⟨stems, texts⟩ := List.append_inj' spelled ((length_text d).trans (length_text e).symm)
  have ids := List.append_cancel_right stems
  rw [String.toList_inj.mp ids, text_injective (String.toList_inj.mp texts)]

end CubicType

def Family.cubicType (f : Family) (d : Dimension) : CubicType := ⟨f.id, d⟩

namespace Family

variable {f : Family}

theorem typeName_cubic (cubic : f.degree = 3) (d : Dimension) :
    f.typeName d.number = .ok (f.cubicType d).name := by
  rw [typeName, cubic, CubicType.name, Dimension.text, ← String.append_assoc]
  rfl

/-- Every character of the identifier is a letter, a digit, or no ASCII character. -/
def HasAlphanumericId (f : Family) : Prop :=
  ∀ c ∈ f.id.toList, c.isAlphanum = true ∨ 128 ≤ c.toNat

instance (f : Family) : Decidable f.HasAlphanumericId := List.decidableBAll _ _

/-- With an alphanumeric identifier, the name of a type has no punctuation. -/
theorem HasAlphanumericId.not_mem_typeName (alphanumeric : f.HasAlphanumericId) {d : Dimension}
    {name : String} (named : f.typeName d.number = .ok name) {c : Char}
    (punctuation : c.isAlphanum = false) (ascii : c.toNat < 128) : c ∉ name.toList := by
  intro member
  have plain : c.isAlphanum = true ∨ 128 ≤ c.toNat := by
    rcases mem_typeName named member with inside | plain
    · exact alphanumeric c inside
    · exact .inl plain
  rcases plain with plain | large
  · rw [punctuation] at plain
    cases plain
  · omega

end Family

namespace Catalog

/-- Families of the same degree have different identifiers. -/
def Distinct (catalog : Catalog) : Prop :=
  (catalog.families.map fun f => (f.id, f.degree)).Nodup

instance (catalog : Catalog) : Decidable catalog.Distinct :=
  inferInstanceAs (Decidable (List.Nodup _))

variable {catalog : Catalog} {f g : Family}

theorem Distinct.of_map (distinct : catalog.Distinct) : catalog.families.Nodup :=
  List.Nodup.of_map _ distinct

theorem Distinct.eq_of_id_eq (distinct : catalog.Distinct) (listed : f ∈ catalog.families)
    (otherListed : g ∈ catalog.families) (cubic : f.degree = 3) (otherCubic : g.degree = 3)
    (same : f.id = g.id) : f = g :=
  List.inj_on_of_nodup_map distinct listed otherListed
    (Prod.ext same (cubic.trans otherCubic.symm))

end Catalog

namespace Blueprint

open Source

variable {catalog : Catalog} {f : Family} {d : Dimension}

/-- The types that a family in a dimension is converted into: the cast comes first. -/
def cubicTargets (catalog : Catalog) (f : Family) (d : Dimension) : List CubicType :=
  (castDimension? f d).toList.map f.cubicType ++
    (conversionTargets catalog f).map fun target => target.cubicType d

theorem castDimension?_eq_some_iff {e : Dimension} :
    castDimension? f d = some e ↔ f.degree = 3 ∧ (d = .two ∧ e = .three ∨ d = .three ∧ e = .two) := by
  cases d <;> cases e <;> simp [castDimension?]

theorem mem_cubicTargets_iff {t : CubicType} :
    t ∈ cubicTargets catalog f d ↔
      (∃ e, castDimension? f d = some e ∧ f.cubicType e = t) ∨
        ∃ target ∈ conversionTargets catalog f, target.cubicType d = t := by
  simp only [cubicTargets, List.mem_append, List.mem_map, Option.mem_toList]

theorem cubic_of_mem_cubicTargets {t : CubicType} (member : t ∈ cubicTargets catalog f d) :
    f.degree = 3 := by
  rcases mem_cubicTargets_iff.mp member with ⟨e, cast, -⟩ | ⟨target, listed, -⟩
  · exact (castDimension?_eq_some_iff.mp cast).1
  · exact (mem_conversionTargets_iff.mp listed).2.1

/-- The types that a family is converted into are those of cubic families of the catalog. -/
theorem exists_family_of_mem_cubicTargets {t : CubicType} (listed : f ∈ catalog.families)
    (member : t ∈ cubicTargets catalog f d) :
    ∃ g ∈ catalog.families, g.degree = 3 ∧ g.cubicType t.dimension = t := by
  have cubic := cubic_of_mem_cubicTargets member
  rcases mem_cubicTargets_iff.mp member with ⟨e, -, rfl⟩ | ⟨target, found, rfl⟩
  · exact ⟨f, listed, cubic, rfl⟩
  · obtain ⟨targetListed, -, targetCubic, -⟩ := mem_conversionTargets_iff.mp found
    exact ⟨target, targetListed, targetCubic, rfl⟩

/-- A blueprint names the types that its family is converted into. -/
theorem Describes.targets_eq {number : Nat} {b : Blueprint}
    (describes : b.Describes catalog f number) :
    b.targets = (cubicTargets catalog f b.dimension).map CubicType.name := by
  have cast : b.castTarget = (castDimension? f b.dimension).map fun e => (f.cubicType e).name := by
    have chosen := describes.castTarget
    unfold castTarget? at chosen
    cases found : castDimension? f b.dimension with
    | none =>
        rw [found] at chosen
        exact (Except.ok.inj chosen).symm
    | some e =>
        obtain ⟨cubic, -⟩ := castDimension?_eq_some_iff.mp found
        rw [found] at chosen
        obtain ⟨name, named, chosen⟩ := Checked.bind_eq_ok_iff.mp chosen
        cases (f.typeName_cubic cubic e).symm.trans named
        exact (Except.ok.inj chosen).symm
  have each : List.Forall₂ (fun target (c : Conversion) =>
      (target.cubicType b.dimension).name = c.target) (conversionTargets catalog f)
      b.conversions := by
    refine ((List.forall₂_and_left _ _).mpr ⟨fun _ member => member, describes.converted⟩).imp ?_
    rintro target c ⟨member, conversion⟩
    obtain ⟨-, -, cubic, -⟩ := mem_conversionTargets_iff.mp member
    obtain ⟨named, -⟩ := parts_of_conversionTo conversion
    exact Except.ok.inj ((target.typeName_cubic cubic _).symm.trans named)
  rw [targets, cast, ← map_eq_map_of_forall₂ each, cubicTargets, List.map_append, List.map_map,
    List.map_map]
  cases castDimension? f b.dimension <;> rfl

/-- A document imports the types that its family is converted into, in the order of their names. -/
theorem imports_of_generateType {document : Document}
    (generated : (generateType catalog f d.number).run = .ok (.ok document)) :
    ∃ names : List String, names.Perm ((cubicTargets catalog f d).map CubicType.name) ∧
      names.Pairwise (· ≤ ·) ∧ startingWith Tie.siblings.start document.lines = importLines names := by
  obtain ⟨b, describes, -, rfl⟩ := describes_of_generateType generated
  have targets := describes.targets_eq
  rw [describes.dimension_eq] at targets
  exact ⟨b.relatedTypes, targets ▸ b.relatedTypes_perm, b.relatedTypes_sorted, siblings_document b⟩

theorem nodup_cubicTargets (distinct : catalog.Distinct) (f : Family) (d : Dimension) :
    (cubicTargets catalog f d).Nodup := by
  have cast : ((castDimension? f d).toList.map f.cubicType).Nodup := by
    cases castDimension? f d with
    | none => exact List.nodup_nil
    | some e => exact List.nodup_singleton _
  have conversions : ((conversionTargets catalog f).map fun g => g.cubicType d).Nodup := by
    have families : (conversionTargets catalog f).Nodup :=
      (distinct.of_map.filter _).filter _
    refine families.map_on ?_
    intro g member h other same
    obtain ⟨listed, -, cubic, -⟩ := mem_conversionTargets_iff.mp member
    obtain ⟨otherListed, -, otherCubic, -⟩ := mem_conversionTargets_iff.mp other
    have ids : g.id = h.id := congrArg CubicType.id same
    exact distinct.eq_of_id_eq listed otherListed cubic otherCubic ids
  rw [cubicTargets, List.nodup_append']
  refine ⟨cast, conversions, ?_⟩
  intro t castMember member
  obtain ⟨e, -, rfl⟩ := List.mem_map.mp castMember
  obtain ⟨g, found, same⟩ := List.mem_map.mp member
  obtain ⟨-, -, -, other⟩ := mem_conversionTargets_iff.mp found
  exact other (congrArg CubicType.id same)

end Blueprint

end CurveForge
