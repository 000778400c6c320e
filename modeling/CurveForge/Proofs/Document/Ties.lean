import Mathlib
import CurveForge.Batch
import CurveForge.Proofs.Source.Outline

/-!
# Ties between documents

A document is tied to others by the types that it imports from its siblings and by
the conversions into those types. Both stand at the outermost level, and no other
line there can be taken for one of them.
-/

namespace CurveForge

open Source Phrase

/-- What ties a document to another one. -/
inductive Tie where
  | siblings
  | conversion

def Tie.start : Tie → String
  | siblings => "use super::"
  | conversion => "impl From<"

def conversionLine (source target : String) : String :=
  "impl From<" ++ source ++ "> for " ++ target ++ " \x7b"

/-- What is fixed in a line that opens a conversion comes first. -/
theorem conversionLine_eq (source target : String) :
    conversionLine source target =
      "impl From<" ++ (source ++ ("> for " ++ (target ++ " \x7b"))) := by
  rw [conversionLine]
  simp only [String.append_assoc]

/-- The header of the block of a conversion is such a line. -/
theorem header_conversionInto (source target : String) :
    "impl " ++ ("From<" ++ source ++ ">") ++ " for " ++ target ++ " \x7b" =
      conversionLine source target := by
  have opening : "impl From<" = "impl " ++ "From<" := rfl
  have middle : "> for " = ">" ++ " for " := rfl
  rw [conversionLine, opening, middle]
  simp only [String.append_assoc]

/-- A line that opens a conversion between names without angle brackets shows both names. -/
theorem conversionLine_inj {source target first second : String} (plain : '>' ∉ source.toList)
    (targetPlain : '>' ∉ target.toList)
    (same : conversionLine source target = conversionLine first second) :
    source = first ∧ target = second := by
  have spelled := congrArg String.toList same
  simp only [conversionLine, String.toList_append, List.append_assoc] at spelled
  have names : source.toList ++ '>' :: (" for ".toList ++ (target.toList ++ " \x7b".toList)) =
      first.toList ++ '>' :: (" for ".toList ++ (second.toList ++ " \x7b".toList)) :=
    (List.append_right_inj "impl From<".toList).mp spelled
  have behind : '>' ∉ " for ".toList ++ (target.toList ++ " \x7b".toList) := by
    simp [targetPlain]
  obtain ⟨sources, -, rest⟩ := (List.append_cons_inj_of_notMem plain behind).mp names
  have targets := List.append_cancel_right ((List.append_right_inj " for ".toList).mp rest)
  exact ⟨String.toList_inj.mp sources, String.toList_inj.mp targets⟩

/-- The line that imports sibling types; braces stand around two or more. -/
def importLines : List String → List String
  | [] => []
  | [name] => ["use super::" ++ name ++ ";"]
  | names => ["use super::" ++ braces (commas names) ++ ";"]

namespace Tie

variable (tie : Tie)

theorem opens : Opens tie.start := by
  cases tie with
  | siblings => exact ⟨'u', _, rfl, by decide⟩
  | conversion => exact ⟨'i', _, rfl, by decide⟩

@[simp]
theorem outline_blank : outline tie.start blank = [] := tie.opens.flush.outline_blank

@[simp]
theorem outline_block (header : String) (body : Source) :
    outline tie.start (block header body) = startingWith tie.start [header ++ " \x7b"] :=
  tie.opens.flush.outline_block header body

@[simp]
theorem outline_doc (text : String) : outline tie.start (doc text) = [] :=
  tie.opens.outline_doc text

@[simp]
theorem outline_comment (text : String) : outline tie.start (comment text) = [] :=
  tie.opens.outline_comment text

@[simp]
theorem outline_marked (text : String) : outline tie.start (marked text) = [] :=
  tie.opens.outline_marked text

/-- The implementation of a trait whose name tells it from a conversion. -/
theorem outline_implementation {trait : String} (apart : Apart tie.start ("impl " ++ trait))
    (name : String) (body : Source) :
    outline tie.start (Blueprint.implementation trait name body) = [] := by
  rw [Blueprint.implementation, outline_block, String.append_assoc, String.append_assoc]
  exact startingWith_append_of_apart apart _

end Tie

namespace Blueprint

variable (b : Blueprint) (tie : Tie)

/-- The types that a segment converts into: the cast comes first. -/
def targets : List String := b.castTarget.toList ++ b.conversions.map Conversion.target

theorem relatedTypes_perm : b.relatedTypes.Perm b.targets :=
  (List.mergeSort_perm _ _).trans List.perm_append_comm

/-- The types that a document imports from its siblings are those that it converts into. -/
theorem mem_relatedTypes_iff {name : String} :
    name ∈ b.relatedTypes ↔ name ∈ b.castTarget ∨ ∃ c ∈ b.conversions, c.target = name := by
  rw [b.relatedTypes_perm.mem_iff, targets, List.mem_append, Option.mem_toList, List.mem_map,
    Option.mem_def]

theorem relatedTypes_sorted : b.relatedTypes.Pairwise (· ≤ ·) := by
  have transitive (first second third : String) (below : decide (first ≤ second) = true)
      (above : decide (second ≤ third) = true) : decide (first ≤ third) = true :=
    decide_eq_true (le_trans (of_decide_eq_true below) (of_decide_eq_true above))
  have total (first second : String) :
      (decide (first ≤ second) || decide (second ≤ first)) = true := by
    rcases le_total first second with below | above
    · simp [below]
    · simp [above]
  exact (List.pairwise_mergeSort transitive total _).imp fun related => of_decide_eq_true related

theorem outline_definition : outline tie.start b.definition = [] := by
  have header : Apart tie.start "pub struct " := by cases tie <;> decide
  simp [definition, startingWith_append_of_apart header, String.append_assoc]

theorem outline_segmentImplementation : outline tie.start b.segmentImplementation = [] := by
  apply tie.outline_implementation
  cases b.dimension <;> cases tie <;> decide

theorem outline_traitImplementations : outline tie.start b.traitImplementations = [] := by
  have apart : ∀ trait ∈ ["Index<usize>", "PartialEq", "Hash", "fmt::Display"],
      Apart tie.start ("impl " ++ trait) := by
    cases tie <;> decide
  have silent {trait : String}
      (listed : trait ∈ ["Index<usize>", "PartialEq", "Hash", "fmt::Display"]) (body : Source) :
      outline tie.start (implementation trait b.name body) = [] :=
    tie.outline_implementation (apart trait listed) b.name body
  simp [traitImplementations, indexImplementation, equalityImplementation, hashImplementation,
    displayImplementation, silent, outline_segmentImplementation]

/-- The type itself is implemented for; its name has to show that this is no conversion. -/
theorem outline_inherentImplementation (plain : tie = .conversion → '<' ∉ b.name.toList) :
    outline tie.start b.inherentImplementation = [] := by
  have other : startsWith tie.start ("impl " ++ b.name ++ " \x7b") = false := by
    cases tie with
    | siblings =>
        have apart : Apart Tie.siblings.start "impl " := by decide
        rw [String.append_assoc]
        exact apart.startsWith_append _
    | conversion =>
        by_contra found
        rw [Bool.not_eq_false, startsWith, List.isPrefixOf_iff_prefix] at found
        obtain ⟨rest, spelled⟩ := found
        rw [String.toList_append, String.toList_append, List.append_assoc] at spelled
        have same : "From<".toList ++ rest = b.name.toList ++ " \x7b".toList :=
          (List.append_right_inj "impl ".toList).mp spelled
        have member : '<' ∈ b.name.toList ++ " \x7b".toList := by
          rw [← same]
          exact List.mem_append_left _ (by decide)
        rcases List.mem_append.mp member with inside | behind
        · exact plain rfl inside
        · revert behind
          decide
  have absent : startingWith tie.start ["impl " ++ b.name ++ " \x7b"] = [] :=
    List.filter_cons_of_neg (Bool.eq_false_iff.mp other)
  simp [inherentImplementation, absent]

theorem outline_siblingImport (names : List String) :
    outline tie.start (siblingImport names) = startingWith tie.start (importLines names) := by
  match names with
  | [] => rfl
  | [_] => exact outline_line _ _
  | _ :: _ :: _ => exact outline_line _ _

theorem outline_imports :
    outline tie.start b.imports = startingWith tie.start (importLines b.relatedTypes) := by
  have standard : startingWith tie.start ["use std::cell::Cell;", "use std::fmt;",
      "use std::hash::" ++ braces "Hash, Hasher" ++ ";", "use std::ops::Index;"] = [] := by
    cases tie <;> rfl
  have vectors : outline tie.start (vectorImports b.dimension) = [] := by
    cases b.dimension <;> cases tie <;> rfl
  have stored : startingWith tie.start ["use serde::" ++ braces "Deserialize, Serialize" ++ ";"] =
      [] := by
    cases tie <;> rfl
  have blending (condition : Bool) :
      outline tie.start (onlyIf condition (.line "use crate::math::lerp;")) = [] := by
    cases condition <;> cases tie <;> rfl
  have sphericalBlending (condition : Bool) :
      outline tie.start (onlyIf condition (.line "use crate::math::slerp;")) = [] := by
    cases condition <;> cases tie <;> rfl
  have library (names : String) : startingWith tie.start ["use crate::" ++ names ++ ";"] = [] := by
    have apart : Apart tie.start "use crate::" := by cases tie <;> decide
    rw [String.append_assoc]
    exact startingWith_append_of_apart apart _
  simp [imports, outline_ofLines, outline_siblingImport, standard, vectors, stored, blending,
    sphericalBlending, library]

theorem outline_conversionInto {about : Source} (silent : outline tie.start about = [])
    (target parameter : String) (body : Source) :
    outline tie.start (b.conversionInto target parameter about body) =
      startingWith tie.start [conversionLine b.name target] := by
  simp [conversionInto, implementation, silent, header_conversionInto]

theorem outline_dimensionCast :
    outline tie.start b.dimensionCast =
      startingWith tie.start (b.castTarget.toList.map (conversionLine b.name)) := by
  unfold dimensionCast
  cases b.castTarget with
  | none => rfl
  | some target =>
      cases b.dimension <;> exact b.outline_conversionInto tie (tie.outline_doc _) target _ _

theorem outline_basisConversions :
    outline tie.start b.basisConversions = startingWith tie.start
      ((b.conversions.map Conversion.target).map (conversionLine b.name)) := by
  rw [basisConversions, outline_concat]
  induction b.conversions with
  | nil => rfl
  | cons c rest ih =>
      rw [List.map_cons, List.flatMap_cons, ih]
      have first : outline tie.start (b.basisConversion c) =
          startingWith tie.start [conversionLine b.name c.target] :=
        b.outline_conversionInto tie (outline_nothing _) c.target _ _
      rw [first, ← startingWith_append]
      rfl

/-- The ties of a document are its imports and its conversions. -/
theorem startingWith_document (plain : tie = .conversion → '<' ∉ b.name.toList) :
    startingWith tie.start b.document.lines = startingWith tie.start
      (importLines b.relatedTypes ++ b.targets.map (conversionLine b.name)) := by
  have sections : startingWith tie.start b.document.lines = outline tie.start b.source := by
    rw [document, lines_eq_linesAt, outline]
  rw [sections, source]
  simp [outline_imports, outline_definition, outline_inherentImplementation b tie plain,
    outline_traitImplementations, outline_dimensionCast, outline_basisConversions,
    startingWith_append, targets]

theorem startsWith_conversionLine (source target : String) :
    startsWith Tie.conversion.start (conversionLine source target) = true := by
  rw [conversionLine_eq]
  exact startsWith_append_self _ _

theorem startingWith_conversionLines (source : String) (targets : List String) :
    startingWith Tie.conversion.start (targets.map (conversionLine source)) =
      targets.map (conversionLine source) := by
  apply List.filter_eq_self.mpr
  intro line member
  obtain ⟨target, -, rfl⟩ := List.mem_map.mp member
  exact startsWith_conversionLine source target

theorem mem_importLines {line : String} {names : List String} (member : line ∈ importLines names) :
    ∃ rest, line = "use super::" ++ rest := by
  unfold importLines at member
  split at member
  · cases member
  · exact ⟨_, (List.mem_singleton.mp member).trans (String.append_assoc ..)⟩
  · exact ⟨_, (List.mem_singleton.mp member).trans (String.append_assoc ..)⟩

/-- The lines that open a conversion are those of the types that the document converts into. -/
theorem conversions_document (plain : '<' ∉ b.name.toList) :
    startingWith Tie.conversion.start b.document.lines =
      b.targets.map (conversionLine b.name) := by
  have imports : startingWith Tie.conversion.start (importLines b.relatedTypes) = [] := by
    apply List.filter_eq_nil_iff.mpr
    intro line member
    obtain ⟨rest, rfl⟩ := mem_importLines member
    have apart : Apart Tie.conversion.start "use super::" := by decide
    exact Bool.eq_false_iff.mp (apart.startsWith_append rest)
  rw [startingWith_document b .conversion fun _ => plain, startingWith_append, imports,
    startingWith_conversionLines, List.nil_append]

/-- The lines that import siblings are those of the types that the document converts into. -/
theorem siblings_document :
    startingWith Tie.siblings.start b.document.lines = importLines b.relatedTypes := by
  have imports : startingWith Tie.siblings.start (importLines b.relatedTypes) =
      importLines b.relatedTypes := by
    apply List.filter_eq_self.mpr
    intro line member
    obtain ⟨rest, rfl⟩ := mem_importLines member
    exact startsWith_append_self _ _
  have conversions : startingWith Tie.siblings.start (b.targets.map (conversionLine b.name)) =
      [] := by
    apply List.filter_eq_nil_iff.mpr
    intro line member
    obtain ⟨target, -, rfl⟩ := List.mem_map.mp member
    have apart : Apart Tie.siblings.start "impl From<" := by decide
    rw [conversionLine_eq]
    exact Bool.eq_false_iff.mp (apart.startsWith_append _)
  rw [startingWith_document b .siblings nofun, startingWith_append, imports, conversions,
    List.append_nil]

end Blueprint

end CurveForge
