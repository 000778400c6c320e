import CurveForge.Document.Blueprint
import CurveForge.Source.Basic

/-!
# Definition of a segment type

Every file opens with a notice and the names it takes from elsewhere. From its
sibling modules it takes exactly the types that it converts into.

The type has a field for each control point, in index order, and a cell for the
coefficients. The constructor takes the points in the same order.

The coefficients are computed from the control points once and kept until a
point changes. Only the points that some coefficient uses are bound.
-/

namespace CurveForge

open Source Phrase

def generatedNotice : String :=
  "Do not manually edit - this file is generated by spline-codegen"

namespace Blueprint

/-- The types that a segment converts into, in the order of their names. -/
def relatedTypes (b : Blueprint) : List String :=
  (b.conversions.map Conversion.target ++ b.castTarget.toList).mergeSort fun a b => a ≤ b

/-- The import of sibling types; braces stand around two or more. -/
def siblingImport : List String → Source
  | [] => .nothing
  | [name] => .line ("use super::" ++ name ++ ";")
  | names => .line ("use super::" ++ braces (commas names) ++ ";")

def vectorImports (d : Dimension) : Source :=
  match d.vector? with
  | some vector =>
      ofLines ["use cgmath::prelude::*;", "use cgmath::" ++ vector ++ ";"]
  | none => .nothing

def imports (b : Blueprint) : Source :=
  concat [
    comment generatedNotice,
    .blank,
    ofLines [
      "use std::cell::Cell;",
      "use std::fmt;",
      "use std::hash::" ++ braces "Hash, Hasher" ++ ";",
      "use std::ops::Index;"],
    .blank,
    vectorImports b.dimension,
    .line ("use serde::" ++ braces "Deserialize, Serialize" ++ ";"),
    .blank,
    siblingImport b.relatedTypes,
    onlyIf (b.dimension == .one) (.line "use crate::math::lerp;"),
    onlyIf b.spherical.isSome (.line "use crate::math::slerp;"),
    .line ("use crate::" ++
      braces (commas ["IndexOutOfRange", b.dimension.segmentTrait, b.dimension.polynomial]) ++ ";"),
    .blank]

/-- What the type is, after a verb phrase and before the number of points. -/
def characterization (b : Blueprint) : String :=
  "uniform " ++ b.dimension.text ++ " " ++ b.degreeWord ++ " " ++ b.displayWord ++ " segment"

def pointCountText (b : Blueprint) : String := toString (b.degree + 1) ++ " control points"

def definition (b : Blueprint) : Source :=
  concat [
    doc ("An optimized " ++ b.characterization ++ ", with " ++ b.pointCountText),
    marked "derive(Clone, Debug, Serialize, Deserialize)",
    block ("pub struct " ++ b.name) (concat [
      ofLines (b.pointNames.map fun p => p ++ ": " ++ b.dimension.point ++ ","),
      marked "serde(skip)",
      .line ("curve: Cell<Option<" ++ b.dimension.polynomial ++ ">>,")]),
    .blank]

def parameterHeading : Source :=
  concat [.line docSeparator, doc "# Parameters"]

def parameterDoc (name description : String) : Source :=
  doc ("* `" ++ name ++ "` - " ++ description)

def constructor (b : Blueprint) : Source :=
  concat [
    doc ("Creates a " ++ b.characterization ++ ", from " ++ b.pointCountText),
    parameterHeading,
    concat (b.points.map fun p => parameterDoc p.name p.description),
    block ("pub const fn new" ++
        parens (commas (b.pointNames.map fun p => p ++ ": " ++ b.dimension.point)) ++ " -> Self")
      (block "Self" (concat [
        ofLines (b.pointNames.map (· ++ ",")),
        .line "curve: Cell::new(None),"]))]

def callWith (opening closing : String) (arguments : List String) : Source :=
  concat [scope opening (ofLines (commaEnded arguments)), .line closing]

def curveFunction (b : Blueprint) : Source :=
  concat [
    doc "The polynomial coefficients of this segment, recomputed after any control point changes",
    block ("pub fn curve(&self) -> " ++ b.dimension.polynomial) (concat [
      block "if let Some(curve) = self.curve.get()" (.line "return curve;"),
      .line ("let " ++ b.curve.patternText ++ " = self.points();"),
      callWith ("let curve = " ++ b.dimension.polynomial ++ "::" ++ b.degreeWord ++ "(") ");"
        (b.curve.formulas.map Formula.text),
      .line "self.curve.set(Some(curve));",
      .line "curve"])]

def pointsFunction (b : Blueprint) : Source :=
  concat [
    doc "All control points, in index order",
    block ("pub fn points(&self) -> " ++
        brackets (b.dimension.point ++ "; " ++ toString (b.degree + 1)))
      (.line (brackets (commas (b.pointNames.map ("self." ++ ·)))))]

end Blueprint

end CurveForge
