import Mathlib
import CurveForge.Batch
import CurveForge.Proofs.Document.SplittingText
import CurveForge.Proofs.Document.Ties
import CurveForge.Proofs.Source.Brackets

/-!
# Brackets in documents

The text of a segment type matches its brackets and is indented by them, whatever
its names are, as long as these have no brackets themselves.
-/

namespace CurveForge

open Brackets Source Phrase

namespace Dimension

variable (d : Dimension)

theorem balanced_text : Balanced d.text :=
  (bracketFree_toString _).balanced.append_lit rfl

theorem balanced_point : Balanced d.point := by
  cases d <;> exact turns_lit rfl

theorem balanced_polynomial : Balanced d.polynomial := by
  cases d <;> exact turns_lit rfl

theorem balanced_segmentTrait : Balanced d.segmentTrait := by
  cases d <;> exact turns_lit rfl

theorem neat_lerp : Neat d.lerp [] := by
  cases d <;> exact neat_lit rfl rfl

theorem balanced_vector {vector : String} (chosen : d.vector? = some vector) : Balanced vector := by
  cases d <;> cases chosen <;> exact turns_lit rfl

theorem balanced_component {c : String} (member : c ∈ d.components) : Balanced c := by
  have listed : c ∈ ["x", "y", "z"] := by
    cases d <;> simp only [components, List.mem_cons, List.not_mem_nil, or_false] at member ⊢ <;> tauto
  have each : ∀ c ∈ ["x", "y", "z"], BracketFree c := by decide
  exact (each c listed).balanced

end Dimension

namespace Brackets

theorem steady_nil : Steady (concat []) := steady_nothing

theorem steady_cons {piece : Source} {pieces : List Source} (steady : Steady piece)
    (later : Steady (concat pieces)) : Steady (concat (piece :: pieces)) :=
  steady_both steady later

end Brackets

/-- The names of the points and the formulas can be written anywhere. -/
structure PointFormulas.Tidy (p : PointFormulas) : Prop where
  pattern : ∀ entry ∈ p.pattern, ∀ name ∈ entry, Balanced name
  formulas : ∀ formula ∈ p.formulas, Neat formula.text []

theorem PointFormulas.Tidy.balanced_patternText {p : PointFormulas} (tidy : p.Tidy) :
    Balanced p.patternText := by
  refine balanced_brackets (balanced_commas (List.forall_mem_map.mpr fun entry member => ?_))
  cases entry with
  | none => exact turns_lit rfl
  | some name => exact tidy.pattern _ member name rfl

theorem PointFormulas.Tidy.neat_binding {p : PointFormulas} (tidy : p.Tidy) {source : String}
    (balanced : Balanced source) : Neat ("let " ++ p.patternText ++ source) [] :=
  ((neat_lit rfl rfl : Neat _ []).append tidy.balanced_patternText).append balanced

namespace Blueprint

theorem balanced_pointCountText (b : Blueprint) : Balanced b.pointCountText :=
  (bracketFree_toString _).balanced.append_lit rfl

theorem steady_parameterHeading : Steady parameterHeading :=
  steady_cons (steady_line (neat_lit rfl rfl)) <|
    steady_cons (steady_doc (turns_lit rfl)) steady_nil

theorem steady_parameterDoc {name description : String} (named : Balanced name)
    (described : Balanced description) : Steady (parameterDoc name description) :=
  have start : Balanced "* `" := turns_lit rfl
  steady_doc (((start.append named).append_lit rfl).append described)

theorem neat_commaEnded {items : List String} (each : ∀ item ∈ items, Neat item []) :
    ∀ text ∈ commaEnded items, Neat text [] := by
  intro text member
  obtain ⟨item, listed, rfl | rfl⟩ := mem_commaEnded member
  · exact each item listed
  · exact (each item listed).append_lit rfl

theorem steady_callWith {opening closing : String} {c : Char} {arguments : List String}
    (opens : Neat opening [c]) (each : ∀ argument ∈ arguments, Neat argument [])
    (closes : Closes closing c) : Steady (callWith opening closing arguments) :=
  steady_scope opens (steady_ofLines (neat_commaEnded each)) closes

theorem balanced_outOfRange (b : Blueprint) : Balanced b.outOfRange :=
  balanced_between [')'] (turns_lit rfl)
    (balanced_braces (((turns_lit rfl : Balanced " index: i, max: ").append
      (bracketFree_toString _).balanced).append_lit rfl))
    (turns_lit rfl)

theorem steady_indexDoc (b : Blueprint) {verb : String} (balanced : Balanced verb) :
    Steady (b.indexDoc verb) :=
  steady_doc ((balanced.append_lit rfl).append (bracketFree_toString _).balanced)

theorem steady_blendDoc {summary : String} (balanced : Balanced summary) :
    Steady (blendDoc summary) :=
  steady_cons (steady_doc balanced) <| steady_cons steady_parameterHeading <|
    steady_cons (steady_parameterDoc (turns_lit rfl) (turns_lit rfl)) <|
    steady_cons (steady_parameterDoc (turns_lit rfl) (turns_lit rfl)) <|
    steady_cons (steady_parameterDoc (turns_lit rfl) (turns_lit rfl)) steady_nil

theorem neat_pointBlend (b : Blueprint) {p : String} (balanced : Balanced p) :
    Neat (b.pointBlend p) [] :=
  b.dimension.neat_lerp.append (balanced_parens
    (((((turns_lit rfl : Balanced "a.").append balanced).append
      (turns_lit rfl)).append balanced).append_lit rfl))

theorem balanced_tangentBlend (b : Blueprint) {p anchor : String} (named : Balanced p)
    (anchored : Balanced anchor) : Balanced (b.tangentBlend p anchor) := by
  have first : Balanced ("a." ++ p ++ " - a." ++ anchor) :=
    (((turns_lit rfl : Balanced "a.").append named).append_lit rfl).append anchored
  have second : Balanced ("b." ++ p ++ " - b." ++ anchor) :=
    (((turns_lit rfl : Balanced "b.").append named).append_lit rfl).append anchored
  unfold tangentBlend
  split
  · have opening : Turns "slerp(" [] [')'] := turns_lit rfl
    have middle : Balanced ".extend(0.0), " := turns_lit rfl
    have call := (opening.append ((balanced_parens first).inside _)).append (middle.inside _)
    exact (call.append ((balanced_parens second).inside _)).append_lit rfl
  · have arguments : ∀ argument ∈ ["a." ++ p ++ " - a." ++ anchor, "b." ++ p ++ " - b." ++ anchor,
        "t"], Balanced argument :=
      List.forall_mem_cons.mpr ⟨first, List.forall_mem_cons.mpr ⟨second,
        List.forall_mem_singleton.mpr (turns_lit rfl)⟩⟩
    exact balanced_between [')'] (turns_lit rfl) (balanced_commas arguments)
      (turns_lit rfl)

theorem steady_siblingImport {names : List String} (balanced : ∀ name ∈ names, Balanced name) :
    Steady (siblingImport names) := by
  have import_ {text : String} (known : Balanced text) : Neat ("use super::" ++ text ++ ";") [] :=
    ((neat_lit rfl rfl : Neat _ []).append known).append_lit rfl
  unfold siblingImport
  split
  next => exact steady_nothing
  next name => exact steady_line (import_ (balanced name List.mem_cons_self))
  next => exact steady_line (import_ (balanced_braces (balanced_commas balanced)))

theorem steady_vectorImports (d : Dimension) : Steady (vectorImports d) := by
  unfold vectorImports
  split
  next vector chosen =>
    have vectorLine : Neat ("use cgmath::" ++ vector ++ ";") [] :=
      ((neat_lit rfl rfl : Neat _ []).append (d.balanced_vector chosen)).append_lit rfl
    exact steady_ofLines
      (List.forall_mem_cons.mpr ⟨neat_lit rfl rfl, List.forall_mem_singleton.mpr vectorLine⟩)
  next => exact steady_nothing

/-! ## Tidy blueprints -/

/-- The names and texts of a blueprint bring no brackets of their own, and the names of points can
stand at the start of a line. -/
structure Tidy (b : Blueprint) : Prop where
  name : Neat b.name []
  degreeWord : Balanced b.degreeWord
  displayWord : Balanced b.displayWord
  nonempty : b.points ≠ []
  points : ∀ p ∈ b.points, Neat p.name [] ∧ Balanced p.description
  curve : b.curve.Tidy
  spherical : ∀ ends ∈ b.spherical, Neat ends.first [] ∧ Neat ends.last []
  castTarget : ∀ target ∈ b.castTarget, Balanced target
  conversions : ∀ c ∈ b.conversions, Balanced c.target ∧ c.formulas.Tidy

variable {b : Blueprint} (tidy : b.Tidy)

include tidy

theorem Tidy.pointNames : ∀ p ∈ b.pointNames, Neat p [] :=
  List.forall_mem_map.mpr fun p member => (tidy.points p member).1

/-- A list of texts that are made from the names of the points. -/
theorem Tidy.commas_pointNames {text : String → String}
    (each : ∀ p, Neat p [] → Balanced (text p)) : Balanced (commas (b.pointNames.map text)) :=
  balanced_commas (List.forall_mem_map.mpr fun p member => each p (tidy.pointNames p member))

theorem Tidy.steady_pointLines {text : String → String} (each : ∀ p, Neat p [] → Neat (text p) []) :
    Steady (ofLines (b.pointNames.map text)) :=
  steady_ofLines (List.forall_mem_map.mpr fun p member => each p (tidy.pointNames p member))

theorem Tidy.balanced_characterization : Balanced b.characterization := by
  have start : Balanced "uniform " := turns_lit rfl
  have space : Balanced " " := turns_lit rfl
  have finish : Balanced " segment" := turns_lit rfl
  exact (((((start.append b.dimension.balanced_text).append space).append
    tidy.degreeWord).append space).append tidy.displayWord).append finish

theorem Tidy.steady_definition : Steady b.definition := by
  have about : Balanced ("An optimized " ++ b.characterization ++ ", with " ++ b.pointCountText) :=
    (((turns_lit rfl : Balanced "An optimized ").append
      tidy.balanced_characterization).append_lit rfl).append b.balanced_pointCountText
  have header : Neat ("pub struct " ++ b.name) [] := (neat_lit rfl rfl).append tidy.name.turns
  have field (p : String) (neat : Neat p []) : Neat (p ++ ": " ++ b.dimension.point ++ ",") [] :=
    ((neat.append_lit rfl).append b.dimension.balanced_point).append_lit rfl
  have cell : Neat ("curve: Cell<Option<" ++ b.dimension.polynomial ++ ">>,") [] :=
    ((neat_lit rfl rfl : Neat _ []).append b.dimension.balanced_polynomial).append_lit rfl
  exact steady_cons (steady_doc about) <| steady_cons (steady_marked (turns_lit rfl)) <|
    steady_cons (steady_block header (steady_cons (tidy.steady_pointLines field) <|
      steady_cons (steady_marked (turns_lit rfl)) <|
      steady_cons (steady_line cell) steady_nil)) <|
    steady_cons steady_blank steady_nil

theorem Tidy.steady_constructor : Steady b.constructor := by
  have about : Balanced ("Creates a " ++ b.characterization ++ ", from " ++ b.pointCountText) :=
    (((turns_lit rfl : Balanced "Creates a ").append
      tidy.balanced_characterization).append_lit rfl).append b.balanced_pointCountText
  have parameter (p : String) (neat : Neat p []) : Balanced (p ++ ": " ++ b.dimension.point) :=
    (neat.turns.append_lit rfl).append b.dimension.balanced_point
  have header : Neat ("pub const fn new" ++
      parens (commas (b.pointNames.map fun p => p ++ ": " ++ b.dimension.point)) ++ " -> Self") [] :=
    ((neat_lit rfl rfl : Neat _ []).append
      (balanced_parens (tidy.commas_pointNames parameter))).append_lit rfl
  have parameters : ∀ p ∈ b.points, Steady (parameterDoc p.name p.description) := by
    intro p member
    obtain ⟨named, described⟩ := tidy.points p member
    exact steady_parameterDoc named.turns described
  have field (p : String) (neat : Neat p []) : Neat (p ++ ",") [] :=
    neat.append_lit rfl
  exact steady_cons (steady_doc about) <| steady_cons steady_parameterHeading <|
    steady_cons (steady_concat_map parameters) <|
    steady_cons (steady_block header (steady_block (neat_lit rfl rfl)
      (steady_cons (tidy.steady_pointLines field) <|
        steady_cons (steady_line (neat_lit rfl rfl)) steady_nil))) steady_nil

theorem Tidy.steady_curveFunction : Steady b.curveFunction := by
  have header : Neat ("pub fn curve(&self) -> " ++ b.dimension.polynomial) [] :=
    (neat_lit rfl rfl).append b.dimension.balanced_polynomial
  have opening : Neat ("let curve = " ++ b.dimension.polynomial ++ "::" ++ b.degreeWord ++ "(")
      [')'] :=
    ((((neat_lit rfl rfl : Neat _ []).append b.dimension.balanced_polynomial).append
      (turns_lit rfl)).append tidy.degreeWord).append_lit rfl
  have cached : Steady (block "if let Some(curve) = self.curve.get()" (.line "return curve;")) :=
    steady_block (neat_lit rfl rfl) (steady_line (neat_lit rfl rfl))
  have call := steady_callWith opening (List.forall_mem_map.mpr tidy.curve.formulas)
    (closes_lit rfl rfl : Closes ");" ')')
  exact steady_cons (steady_doc (turns_lit rfl)) <|
    steady_cons (steady_block header (steady_cons cached <|
      steady_cons (steady_line (tidy.curve.neat_binding (turns_lit rfl))) <|
      steady_cons call <| steady_cons (steady_line (neat_lit rfl rfl)) <|
      steady_cons (steady_line (neat_lit rfl rfl)) steady_nil)) steady_nil

theorem Tidy.steady_pointsFunction : Steady b.pointsFunction := by
  have header : Neat ("pub fn points(&self) -> " ++
      brackets (b.dimension.point ++ "; " ++ toString (b.degree + 1))) [] :=
    (neat_lit rfl rfl).append (balanced_brackets
      ((b.dimension.balanced_point.append_lit rfl).append (bracketFree_toString _).balanced))
  have points : Balanced (commas (b.pointNames.map ("self." ++ ·))) :=
    tidy.commas_pointNames fun p neat => (turns_lit rfl).append neat.turns
  exact steady_cons (steady_doc (turns_lit rfl)) <|
    steady_cons (steady_block header (steady_line (neat_brackets points))) steady_nil

/-! ## Access to control points -/

theorem Tidy.steady_indexMatch {arm : String → String} {otherwise : String}
    (each : ∀ p, Neat p [] → Balanced (arm p)) (other : Balanced otherwise) :
    Steady (b.indexMatch arm otherwise) := by
  have arms : ∀ entry ∈ b.pointNames.zipIdx,
      Neat (toString entry.2 ++ " => " ++ arm entry.1 ++ ",") [] := by
    intro entry member
    have named := tidy.pointNames entry.1 (List.fst_mem_of_mem_zipIdx member)
    exact (((neat_toString entry.2).append_lit rfl).append (each entry.1 named)).append_lit rfl
  have rest : Neat ("_ => " ++ otherwise ++ ",") [] :=
    ((neat_lit rfl rfl : Neat _ []).append other).append_lit rfl
  exact steady_block (neat_lit rfl rfl) (steady_cons
    (steady_ofLines (List.forall_mem_map.mpr arms)) <| steady_cons (steady_line rest) steady_nil)

theorem Tidy.steady_pointAccess {p : ControlPoint} (member : p ∈ b.points) :
    Steady (b.pointAccess p) := by
  obtain ⟨named, described⟩ := tidy.points p member
  have getter : Neat ("pub fn " ++ p.name ++ "(&self) -> " ++ b.dimension.point) [] :=
    (((neat_lit rfl rfl : Neat _ []).append named.turns).append_lit rfl).append
      b.dimension.balanced_point
  have field : Neat ("self." ++ p.name) [] := (neat_lit rfl rfl).append named.turns
  have setter : Neat ("pub fn set_" ++ p.name ++ "(&mut self, value: " ++ b.dimension.point ++ ")")
      [] :=
    ((((neat_lit rfl rfl : Neat _ []).append named.turns).append
      (turns_lit rfl : Turns _ [] [')'])).append
      (b.dimension.balanced_point.inside [')'])).append_lit rfl
  have assignment : Neat ("self." ++ p.name ++ " = value;") [] := field.append_lit rfl
  have about : Balanced ("Sets " ++ p.name ++ ", invalidating the cached coefficients") :=
    ((turns_lit rfl : Balanced "Sets ").append named.turns).append_lit rfl
  have lines : ∀ text ∈ ["self." ++ p.name ++ " = value;", "self.curve.set(None);"],
      Neat text [] :=
    List.forall_mem_cons.mpr ⟨assignment, List.forall_mem_singleton.mpr (neat_lit rfl rfl)⟩
  exact steady_cons (steady_doc described) <|
    steady_cons (steady_block getter (steady_line field)) <| steady_cons steady_blank <|
    steady_cons (steady_doc about) <| steady_cons (steady_block setter (steady_ofLines lines)) <|
    steady_cons steady_blank steady_nil

theorem Tidy.steady_pointByIndex : Steady b.pointByIndex := by
  have header : Neat ("pub fn point(&self, i: usize) -> Result<" ++ b.dimension.point ++
      ", IndexOutOfRange>") [] :=
    ((neat_lit rfl rfl : Neat _ []).append b.dimension.balanced_point).append_lit rfl
  have arm (p : String) (neat : Neat p []) : Balanced ("Ok(self." ++ p ++ ")") :=
    balanced_between [')'] (turns_lit rfl) neat.turns (turns_lit rfl)
  exact steady_cons (b.steady_indexDoc (turns_lit rfl)) <|
    steady_cons (steady_block header (tidy.steady_indexMatch arm b.balanced_outOfRange)) steady_nil

theorem Tidy.steady_setPointByIndex : Steady b.setPointByIndex := by
  have header : Neat ("pub fn set_point(&mut self, i: usize, value: " ++ b.dimension.point ++
      ") -> Result<(), IndexOutOfRange>") [] :=
    ((neat_lit rfl rfl : Neat _ [')']).append
      (b.dimension.balanced_point.inside [')'])).append_lit rfl
  have arm (p : String) (neat : Neat p []) : Balanced ("self.set_" ++ p ++ "(value)") :=
    ((turns_lit rfl : Balanced "self.set_").append neat.turns).append_lit rfl
  have failure : Balanced ("return " ++ b.outOfRange) :=
    (turns_lit rfl).append b.balanced_outOfRange
  exact steady_cons (b.steady_indexDoc (turns_lit rfl)) <|
    steady_cons (steady_block header (steady_cons (tidy.steady_indexMatch arm failure) <|
      steady_cons (steady_line (neat_lit rfl rfl)) steady_nil)) steady_nil

theorem Tidy.steady_controlPoints : Steady b.controlPoints :=
  steady_region (turns_lit rfl) <|
    steady_cons (steady_concat_map fun _ member => tidy.steady_pointAccess member) <|
    steady_cons tidy.steady_pointByIndex <| steady_cons steady_blank <|
    steady_cons tidy.steady_setPointByIndex steady_nil

theorem Tidy.steady_lerpFunction : Steady b.lerpFunction := by
  have summary : Balanced ("Returns a linear blend between two " ++ b.displayWord ++ " curves") :=
    ((turns_lit rfl : Balanced _).append tidy.displayWord).append_lit rfl
  have argument (p : String) (neat : Neat p []) : Neat (b.pointBlend p ++ ",") [] :=
    (b.neat_pointBlend neat.turns).append_lit rfl
  exact steady_cons (steady_blendDoc summary) <|
    steady_cons (steady_block (neat_lit rfl rfl)
      (steady_scope (neat_lit rfl rfl : Neat "Self::new(" [')'])
        (tidy.steady_pointLines argument) (closes_lit rfl rfl))) steady_nil

theorem Tidy.innerPoints {entry : String × Nat} (member : entry ∈ b.innerPoints) :
    Neat entry.1 [] :=
  tidy.pointNames entry.1
    (List.fst_mem_of_mem_zipIdx (List.mem_of_mem_take (List.mem_of_mem_drop member)))

theorem Tidy.steady_slerpFunction {ends : EndPoints} (chosen : b.spherical = some ends) :
    Steady (b.slerpFunction ends) := by
  obtain ⟨first, last⟩ := tidy.spherical ends chosen
  have summary : Balanced ("Returns a linear blend between two " ++ b.displayWord ++
      " curves, where the tangent directions are spherically interpolated") :=
    ((turns_lit rfl : Balanced _).append tidy.displayWord).append_lit rfl
  have binding (p : String) (neat : Neat p []) :
      Neat ("let " ++ p ++ ": " ++ b.dimension.point ++ " = " ++ b.pointBlend p ++ ";") [] :=
    ((((((neat_lit rfl rfl : Neat _ []).append neat.turns).append_lit rfl).append
      b.dimension.balanced_point).append_lit rfl).append
      (b.neat_pointBlend neat.turns).turns).append_lit rfl
  have bindings : ∀ p ∈ [ends.first, ends.last],
      Neat ("let " ++ p ++ ": " ++ b.dimension.point ++ " = " ++ b.pointBlend p ++ ";") [] :=
    List.forall_mem_cons.mpr
      ⟨binding _ first, List.forall_mem_singleton.mpr (binding _ last)⟩
  have inner : ∀ entry ∈ b.innerPoints,
      let anchor := if 2 * entry.2 ≤ b.degree then ends.first else ends.last
      Neat (anchor ++ " + " ++ b.tangentBlend entry.1 anchor ++ ",") [] := by
    intro entry member anchor
    have anchored : Neat anchor [] := by
      unfold anchor
      split
      · exact first
      · exact last
    exact ((anchored.append_lit rfl).append (b.balanced_tangentBlend
      (tidy.innerPoints member).turns anchored.turns)).append_lit rfl
  have arguments := steady_cons (steady_line (first.append (turns_lit rfl : Balanced ","))) <|
    steady_cons (steady_ofLines (List.forall_mem_map.mpr inner)) <|
    steady_cons (steady_line last) steady_nil
  exact steady_cons (steady_blendDoc summary) <|
    steady_cons (steady_block (neat_lit rfl rfl)
      (steady_cons (steady_ofLines (List.forall_mem_map.mpr bindings)) <|
        steady_scope (neat_lit rfl rfl : Neat "Self::new(" [')']) arguments
          (closes_lit rfl rfl))) steady_nil

end Blueprint

namespace PointBinding

structure Tidy (p : PointBinding) : Prop where
  name : Neat p.name []
  first : Neat p.first []
  second : Neat p.second []

theorem neat_letters : ∀ name ∈ "p" :: letters, Neat name [] := by
  have plain : ∀ name ∈ "p" :: letters, IsPlainName name := by decide
  exact fun name member => (plain name member).neat

theorem neat_blendText {first second : String} (neat : Neat first []) (balanced : Balanced second) :
    Neat (blendText first second) [] := by
  have difference : Balanced (second ++ " - " ++ first) :=
    (balanced.append_lit rfl).append neat.turns
  exact ((neat.append_lit rfl).append (balanced_parens difference)).append_lit rfl

theorem Tidy.steady_statement {p : PointBinding} (tidy : p.Tidy) (d : Dimension) :
    Steady (p.statement d) := by
  have opening : Neat ("let " ++ p.name ++ ": " ++ d.point ++ " = ") [] :=
    ((((neat_lit rfl rfl : Neat _ []).append tidy.name.turns).append
      (turns_lit rfl)).append d.balanced_point).append_lit rfl
  unfold statement
  split
  next =>
    exact steady_line ((opening.append (neat_blendText tidy.first tidy.second.turns).turns).append
      (turns_lit rfl))
  next vector chosen =>
    have component : ∀ c ∈ d.components,
        Neat (blendText (p.first ++ "." ++ c) (p.second ++ "." ++ c) ++ ",") [] := by
      intro c member
      have known := d.balanced_component member
      exact (neat_blendText ((tidy.first.append_lit rfl).append known)
        ((tidy.second.turns.append_lit rfl).append known)).append_lit rfl
    exact steady_scope ((opening.append (d.balanced_vector chosen)).append_lit rfl)
      (steady_ofLines (List.forall_mem_map.mpr component)) (closes_lit rfl rfl)

end PointBinding

namespace Blueprint

theorem steady_splitBody (d : Dimension) {points : List String}
    (neat : ∀ point ∈ points, Neat point []) : Steady (splitBody d points) := by
  have tidy : ∀ p ∈ (PointBinding.rows points).flatten, p.Tidy := by
    intro p member
    obtain ⟨name, first, second⟩ :=
      PointBinding.holds_rows PointBinding.neat_letters neat p member
    exact ⟨name, first, second⟩
  obtain ⟨firstHalf, secondHalf⟩ :=
    holds_splitHalves PointBinding.neat_letters neat
  have taken : Neat ("let " ++ brackets (commas points) ++ " = self.points();") [] :=
    ((neat_lit rfl rfl : Neat _ []).append
      (balanced_brackets (balanced_commas fun point member => (neat point member).turns))).append
      (turns_lit rfl)
  have first := balanced_parens (balanced_commas fun name member => (firstHalf name member).turns)
  have second := balanced_parens (balanced_commas fun name member => (secondHalf name member).turns)
  have pair : Balanced ("Self::new" ++ parens (commas (splitHalves points).1) ++ ", Self::new" ++
      parens (commas (splitHalves points).2)) :=
    (((turns_lit rfl : Balanced "Self::new").append first).append_lit rfl).append second
  exact steady_cons (steady_line taken) <|
    steady_cons (steady_concat_map fun p member => (tidy p member).steady_statement d) <|
    steady_cons (steady_line (neat_parens pair)) steady_nil

theorem Tidy.steady_splitFunction {b : Blueprint} (tidy : b.Tidy) : Steady b.splitFunction :=
  steady_cons (steady_doc (turns_lit rfl)) <| steady_cons steady_parameterHeading <|
    steady_cons (steady_parameterDoc (turns_lit rfl) (turns_lit rfl)) <|
    steady_cons (steady_block (neat_lit rfl rfl)
      (steady_splitBody b.dimension tidy.pointNames)) steady_nil

/-! ## Traits -/

theorem steady_implementation {trait name : String} {body : Source} (known : Balanced trait)
    (named : Balanced name) (steady : Steady body) : Steady (implementation trait name body) := by
  have header : Neat ("impl " ++ trait ++ " for " ++ name) [] :=
    (((neat_lit rfl rfl : Neat _ []).append known).append_lit rfl).append named
  exact steady_block header steady

theorem balanced_indexPanic (b : Blueprint) : Balanced b.indexPanic := by
  have start : Balanced ("\"Index has to be in the 0 to " ++ toString b.degree) :=
    (turns_lit rfl).append (bracketFree_toString _).balanced
  have index : Balanced (braces "") := balanced_braces (turns_lit rfl)
  exact (turns_lit rfl : Balanced "panic!").append (balanced_parens
    (((start.append_lit rfl).append index).append_lit rfl))

theorem neat_hashLines (d : Dimension) : ∀ line ∈ hashLines d, Neat line [] := by
  have component : ∀ c ∈ d.components, Neat ("p." ++ c ++ ".to_bits().hash(state);") [] := by
    intro c member
    exact ((neat_lit rfl rfl : Neat _ []).append (d.balanced_component member)).append_lit rfl
  cases d with
  | one => exact List.forall_mem_singleton.mpr (neat_lit rfl rfl)
  | two => exact List.forall_mem_map.mpr component
  | three => exact List.forall_mem_map.mpr component

section Traits

variable {b : Blueprint} (tidy : b.Tidy)

include tidy

theorem Tidy.steady_segmentImplementation : Steady b.segmentImplementation := by
  have header : Neat ("fn curve(&self) -> " ++ b.dimension.polynomial) [] :=
    (neat_lit rfl rfl).append b.dimension.balanced_polynomial
  have call : Neat (b.name ++ "::curve(self)") [] := tidy.name.append_lit rfl
  exact steady_implementation b.dimension.balanced_segmentTrait tidy.name.turns
    (steady_block header (steady_line call))

theorem Tidy.steady_indexImplementation : Steady b.indexImplementation := by
  have output : Neat ("type Output = " ++ b.dimension.point ++ ";") [] :=
    ((neat_lit rfl rfl : Neat _ []).append b.dimension.balanced_point).append_lit rfl
  have header : Neat ("fn index(&self, i: usize) -> &" ++ b.dimension.point) [] :=
    (neat_lit rfl rfl).append b.dimension.balanced_point
  have arm (p : String) (neat : Neat p []) : Balanced ("&self." ++ p) :=
    (turns_lit rfl).append neat.turns
  exact steady_implementation (turns_lit rfl) tidy.name.turns
    (steady_cons (steady_line output) <| steady_cons steady_blank <|
      steady_cons (steady_block header (tidy.steady_indexMatch arm b.balanced_indexPanic))
        steady_nil)

theorem Tidy.steady_equalityImplementation : Steady b.equalityImplementation := by
  have comparison (p : String) (neat : Neat p []) : Neat ("self." ++ p ++ " == other." ++ p) [] :=
    (((neat_lit rfl rfl : Neat _ []).append neat.turns).append_lit rfl).append neat.turns
  have all : Neat (" && ".intercalate
      (b.pointNames.map fun p => "self." ++ p ++ " == other." ++ p)) [] := by
    refine neat_intercalate ?_ (turns_lit rfl) ?_
    · intro empty
      exact tidy.nonempty (List.map_eq_nil_iff.mp (List.map_eq_nil_iff.mp empty))
    · exact List.forall_mem_map.mpr fun p member => comparison p (tidy.pointNames p member)
  exact steady_implementation (turns_lit rfl) tidy.name.turns
    (steady_block (neat_lit rfl rfl) (steady_line all))

theorem Tidy.steady_hashImplementation : Steady b.hashImplementation :=
  steady_implementation (turns_lit rfl) tidy.name.turns
    (steady_block (neat_lit rfl rfl)
      (steady_block (neat_lit rfl rfl) (steady_ofLines (neat_hashLines b.dimension))))

theorem Tidy.steady_displayImplementation : Steady b.displayImplementation := by
  have places : Balanced (parens (commas (b.pointNames.map fun _ => braces ":?"))) :=
    balanced_parens (tidy.commas_pointNames fun _ _ => balanced_braces (turns_lit rfl))
  have points : Balanced (commas (b.pointNames.map ("self." ++ ·))) :=
    tidy.commas_pointNames fun p neat => (turns_lit rfl).append neat.turns
  have arguments : Balanced ("f, \"" ++ parens (commas (b.pointNames.map fun _ => braces ":?")) ++
      "\", " ++ commas (b.pointNames.map ("self." ++ ·))) :=
    (((turns_lit rfl : Balanced "f, \"").append places).append_lit rfl).append points
  exact steady_implementation (turns_lit rfl) tidy.name.turns
    (steady_block (neat_lit rfl rfl)
      (steady_line ((neat_lit rfl rfl : Neat "write!" []).append (balanced_parens arguments))))

theorem Tidy.steady_traitImplementations : Steady b.traitImplementations :=
  steady_cons tidy.steady_segmentImplementation <| steady_cons steady_blank <|
    steady_cons tidy.steady_indexImplementation <| steady_cons steady_blank <|
    steady_cons tidy.steady_equalityImplementation <| steady_cons steady_blank <|
    steady_cons tidy.steady_hashImplementation <| steady_cons steady_blank <|
    steady_cons tidy.steady_displayImplementation steady_nil

theorem Tidy.steady_conversionInto {target parameter : String} {about body : Source}
    (known : Balanced target) (named : Balanced parameter) (aboutSteady : Steady about)
    (steady : Steady body) : Steady (b.conversionInto target parameter about body) := by
  have trait : Balanced ("From<" ++ b.name ++ ">") :=
    ((turns_lit rfl : Balanced "From<").append tidy.name.turns).append_lit rfl
  have header : Neat ("fn from(" ++ parameter ++ ": " ++ b.name ++ ") -> Self") [] :=
    ((((neat_lit rfl rfl : Neat _ [')']).append (named.inside [')'])).append
      ((turns_lit rfl : Balanced ": ").inside [')'])).append
      (tidy.name.turns.inside [')'])).append_lit rfl
  exact steady_cons steady_blank <| steady_cons aboutSteady <|
    steady_cons (steady_implementation trait known (steady_block header steady)) steady_nil

theorem Tidy.steady_castBody {parameter method : String} (named : Balanced parameter)
    (applied : Balanced method) : Steady (b.castBody parameter method) := by
  have points : Balanced (commas b.pointNames) :=
    balanced_commas fun p member => (tidy.pointNames p member).turns
  have arguments : Balanced (commas (b.pointNames.map fun p => p ++ "." ++ method)) :=
    tidy.commas_pointNames fun p neat => (neat.turns.append_lit rfl).append applied
  have binding : Neat ("let " ++ brackets (commas b.pointNames) ++ " = " ++ parameter ++
      ".points();") [] :=
    ((((neat_lit rfl rfl : Neat _ []).append (balanced_brackets points)).append
      (turns_lit rfl)).append named).append_lit rfl
  have result : Neat ("Self::new" ++
      parens (commas (b.pointNames.map fun p => p ++ "." ++ method))) [] :=
    (neat_lit rfl rfl).append (balanced_parens arguments)
  exact steady_ofLines (List.forall_mem_cons.mpr ⟨binding, List.forall_mem_singleton.mpr result⟩)

theorem Tidy.steady_dimensionCast : Steady b.dimensionCast := by
  have cast {target parameter method summary : String} (known : Balanced target)
      (named : Balanced parameter) (applied : Balanced method) (said : Balanced summary) :
      Steady (b.conversionInto target parameter (doc summary) (b.castBody parameter method)) :=
    tidy.steady_conversionInto known named (steady_doc said) (tidy.steady_castBody named applied)
  unfold dimensionCast
  cases chosen : b.castTarget with
  | none => exact steady_nothing
  | some target =>
      have known := tidy.castTarget target chosen
      cases b.dimension <;> exact cast known (turns_lit rfl) (turns_lit rfl)
        (turns_lit rfl)

theorem Tidy.steady_basisConversions : Steady b.basisConversions := by
  refine steady_concat_map fun c member => ?_
  obtain ⟨known, formulas⟩ := tidy.conversions c member
  have call : Steady (callWith "Self::new(" ")" (c.formulas.formulas.map Formula.text)) :=
    steady_callWith (neat_lit rfl rfl) (List.forall_mem_map.mpr formulas.formulas)
      (closes_lit rfl rfl)
  exact tidy.steady_conversionInto known (turns_lit rfl) steady_nothing <|
    steady_cons (steady_line (formulas.neat_binding (turns_lit rfl))) <|
    steady_cons call steady_nil

theorem Tidy.balanced_relatedTypes : ∀ name ∈ b.relatedTypes, Balanced name := by
  intro name member
  rcases b.mem_relatedTypes_iff.mp member with cast | ⟨c, listed, rfl⟩
  · exact tidy.castTarget name cast
  · exact (tidy.conversions c listed).1

theorem Tidy.steady_imports : Steady b.imports := by
  have standard : ∀ line ∈ ["use std::cell::Cell;", "use std::fmt;",
      "use std::hash::" ++ braces "Hash, Hasher" ++ ";", "use std::ops::Index;"], Neat line [] := by
    refine List.forall_mem_cons.mpr ⟨neat_lit rfl rfl, List.forall_mem_cons.mpr
      ⟨neat_lit rfl rfl, List.forall_mem_cons.mpr ⟨?_, List.forall_mem_singleton.mpr
        (neat_lit rfl rfl)⟩⟩⟩
    exact ((neat_lit rfl rfl : Neat _ []).append
      (balanced_braces (turns_lit rfl))).append_lit rfl
  have stored : Neat ("use serde::" ++ braces "Deserialize, Serialize" ++ ";") [] :=
    ((neat_lit rfl rfl : Neat _ []).append
      (balanced_braces (turns_lit rfl))).append_lit rfl
  have names : ∀ name ∈ ["IndexOutOfRange", b.dimension.segmentTrait, b.dimension.polynomial],
      Balanced name :=
    List.forall_mem_cons.mpr ⟨turns_lit rfl, List.forall_mem_cons.mpr
      ⟨b.dimension.balanced_segmentTrait, List.forall_mem_singleton.mpr
        b.dimension.balanced_polynomial⟩⟩
  have library : Neat ("use crate::" ++ braces (commas ["IndexOutOfRange",
      b.dimension.segmentTrait, b.dimension.polynomial]) ++ ";") [] :=
    ((neat_lit rfl rfl : Neat _ []).append (balanced_braces (balanced_commas names))).append_lit rfl
  exact steady_cons (steady_comment (turns_lit rfl)) <| steady_cons steady_blank <|
    steady_cons (steady_ofLines standard) <| steady_cons steady_blank <|
    steady_cons (steady_vectorImports b.dimension) <| steady_cons (steady_line stored) <|
    steady_cons steady_blank <|
    steady_cons (steady_siblingImport tidy.balanced_relatedTypes) <|
    steady_cons (steady_onlyIf _ (steady_line (neat_lit rfl rfl))) <|
    steady_cons (steady_onlyIf _ (steady_line (neat_lit rfl rfl))) <|
    steady_cons (steady_line library) <| steady_cons steady_blank steady_nil

theorem Tidy.steady_inherentImplementation : Steady b.inherentImplementation := by
  have header : Neat ("impl " ++ b.name) [] := (neat_lit rfl rfl).append tidy.name.turns
  have spherical : Steady (b.spherical.elim .nothing fun ends => .blank ++ b.slerpFunction ends) := by
    cases chosen : b.spherical with
    | none => exact steady_nothing
    | some ends => exact steady_both steady_blank (tidy.steady_slerpFunction chosen)
  exact steady_cons (steady_block header
    (steady_cons tidy.steady_constructor <| steady_cons steady_blank <|
      steady_cons tidy.steady_curveFunction <| steady_cons steady_blank <|
      steady_cons tidy.steady_pointsFunction <| steady_cons steady_blank <|
      steady_cons tidy.steady_controlPoints <| steady_cons steady_blank <|
      steady_cons tidy.steady_lerpFunction <| steady_cons spherical <|
      steady_cons (steady_onlyIf _ (steady_both steady_blank tidy.steady_splitFunction))
        steady_nil)) <|
    steady_cons steady_blank steady_nil

/-- A document with tidy names is steady. -/
theorem Tidy.steady_source : Steady b.source :=
  steady_cons tidy.steady_imports <| steady_cons tidy.steady_definition <|
    steady_cons tidy.steady_inherentImplementation <|
    steady_cons tidy.steady_traitImplementations <|
    steady_cons tidy.steady_dimensionCast <| steady_cons tidy.steady_basisConversions steady_nil

end Traits

end Blueprint

end CurveForge
