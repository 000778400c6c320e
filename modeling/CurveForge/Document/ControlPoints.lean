import CurveForge.Document.Blueprint
import CurveForge.Document.Definition
import CurveForge.Source.Basic

/-!
# Control points of a segment type

Each point can be read and replaced by its name and by its index. An index past
the degree is reported together with the largest valid one.

Two segments of one type are blended point by point. Where the family allows it,
a second function keeps the length of tangents by blending their directions on a
sphere: each inner point is taken relative to the end point that is nearer to it,
the first one in the middle.
-/

namespace CurveForge

namespace Blueprint

open Source Phrase

def indexMatch (b : Blueprint) (arm : String → String) (otherwise : String) : Source :=
  block "match i" (concat [
    ofLines (b.pointNames.zipIdx.map fun entry =>
      toString entry.2 ++ " => " ++ arm entry.1 ++ ","),
    .line ("_ => " ++ otherwise ++ ",")])

def outOfRange (b : Blueprint) : String :=
  "Err(IndexOutOfRange " ++ braces (" index: i, max: " ++ toString b.degree ++ " ") ++ ")"

def pointAccess (b : Blueprint) (p : ControlPoint) : Source :=
  concat [
    doc p.description,
    block ("pub fn " ++ p.name ++ "(&self) -> " ++ b.dimension.point)
      (.line ("self." ++ p.name)),
    .blank,
    doc ("Sets " ++ p.name ++ ", invalidating the cached coefficients"),
    block ("pub fn set_" ++ p.name ++ "(&mut self, value: " ++ b.dimension.point ++ ")")
      (ofLines ["self." ++ p.name ++ " = value;", "self.curve.set(None);"]),
    .blank]

def indexDoc (b : Blueprint) (verb : String) : Source :=
  doc (verb ++ " a control point by index. Valid indices from 0 to " ++ toString b.degree)

def pointByIndex (b : Blueprint) : Source :=
  concat [
    b.indexDoc "Gets",
    block ("pub fn point(&self, i: usize) -> Result<" ++ b.dimension.point ++ ", IndexOutOfRange>")
      (b.indexMatch (fun p => "Ok(self." ++ p ++ ")") b.outOfRange)]

def setPointByIndex (b : Blueprint) : Source :=
  concat [
    b.indexDoc "Sets",
    block ("pub fn set_point(&mut self, i: usize, value: " ++ b.dimension.point ++
        ") -> Result<(), IndexOutOfRange>")
      (concat [
        b.indexMatch (fun p => "self.set_" ++ p ++ "(value)") ("return " ++ b.outOfRange),
        .line "Ok(())"])]

def controlPoints (b : Blueprint) : Source :=
  region "Control points" (concat [
    concat (b.points.map b.pointAccess),
    b.pointByIndex,
    .blank,
    b.setPointByIndex])

def blendDoc (summary : String) : Source :=
  concat [
    doc summary,
    parameterHeading,
    parameterDoc "a" "The first spline segment",
    parameterDoc "b" "The second spline segment",
    parameterDoc "t" "A value from 0 to 1 to blend between `a` and `b`"]

def pointBlend (b : Blueprint) (p : String) : String :=
  b.dimension.lerp ++ parens ("a." ++ p ++ ", b." ++ p ++ ", t")

def lerpFunction (b : Blueprint) : Source :=
  concat [
    blendDoc ("Returns a linear blend between two " ++ b.displayWord ++ " curves"),
    block "pub fn lerp(a: &Self, b: &Self, t: f32) -> Self" (concat [
      scope "Self::new(" (ofLines (b.pointNames.map fun p => b.pointBlend p ++ ",")),
      .line ")"])]

def tangentBlend (b : Blueprint) (p anchor : String) : String :=
  let first := "a." ++ p ++ " - a." ++ anchor
  let second := "b." ++ p ++ " - b." ++ anchor
  match b.dimension with
  | .two =>
      "slerp(" ++ parens first ++ ".extend(0.0), " ++ parens second ++ ".extend(0.0), t).truncate()"
  | _ => "slerp(" ++ commas [first, second, "t"] ++ ")"

def innerPoints (b : Blueprint) : List (String × Nat) :=
  (b.pointNames.zipIdx.take b.degree).drop 1

def slerpFunction (b : Blueprint) (ends : EndPoints) : Source :=
  concat [
    blendDoc ("Returns a linear blend between two " ++ b.displayWord ++
      " curves, where the tangent directions are spherically interpolated"),
    block "pub fn slerp(a: &Self, b: &Self, t: f32) -> Self" (concat [
      ofLines ([ends.first, ends.last].map fun p =>
        "let " ++ p ++ ": " ++ b.dimension.point ++ " = " ++ b.pointBlend p ++ ";"),
      scope "Self::new(" (concat [
        .line (ends.first ++ ","),
        ofLines (b.innerPoints.map fun entry =>
          let anchor := if 2 * entry.2 ≤ b.degree then ends.first else ends.last
          anchor ++ " + " ++ b.tangentBlend entry.1 anchor ++ ","),
        .line ends.last]),
      .line ")"])]

end Blueprint

end CurveForge
