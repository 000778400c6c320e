import CurveForge.Document.ControlPoints
import CurveForge.Document.Definition

/-!
# Traits of a segment type

Every type is a segment, can be indexed, compared, hashed and displayed. All of
these go through the control points in index order.

A cubic segment of the plane can be put into space and back, and a cubic segment
of one family becomes one of any other cubic family of the catalog.
-/

namespace CurveForge

namespace Blueprint

open Source Phrase

def implementation (trait name : String) (body : Source) : Source :=
  block ("impl " ++ trait ++ " for " ++ name) body

def segmentImplementation (b : Blueprint) : Source :=
  implementation b.dimension.segmentTrait b.name
    (block ("fn curve(&self) -> " ++ b.dimension.polynomial) (.line (b.name ++ "::curve(self)")))

def indexPanic (b : Blueprint) : String :=
  "panic!" ++ parens ("\"Index has to be in the 0 to " ++ toString b.degree ++ " range, and " ++
    braces "" ++ " is outside that range\", i")

def indexImplementation (b : Blueprint) : Source :=
  implementation "Index<usize>" b.name (concat [
    .line ("type Output = " ++ b.dimension.point ++ ";"),
    .blank,
    block ("fn index(&self, i: usize) -> &" ++ b.dimension.point)
      (b.indexMatch (fun p => "&self." ++ p) b.indexPanic)])

def equalityImplementation (b : Blueprint) : Source :=
  implementation "PartialEq" b.name
    (block "fn eq(&self, other: &Self) -> bool"
      (.line (" && ".intercalate (b.pointNames.map fun p => "self." ++ p ++ " == other." ++ p))))

def hashLines : Dimension → List String
  | .one => ["p.to_bits().hash(state);"]
  | d => d.components.map fun c => "p." ++ c ++ ".to_bits().hash(state);"

def hashImplementation (b : Blueprint) : Source :=
  implementation "Hash" b.name
    (block "fn hash<H: Hasher>(&self, state: &mut H)"
      (block "for p in self.points()" (ofLines (hashLines b.dimension))))

def displayImplementation (b : Blueprint) : Source :=
  implementation "fmt::Display" b.name
    (block "fn fmt(&self, f: &mut fmt::Formatter<'_>) -> fmt::Result"
      (.line ("write!" ++ parens ("f, \"" ++
        parens (commas (b.pointNames.map fun _ => braces ":?")) ++ "\", " ++
        commas (b.pointNames.map ("self." ++ ·))))))

def traitImplementations (b : Blueprint) : Source :=
  concat [
    b.segmentImplementation,
    .blank,
    b.indexImplementation,
    .blank,
    b.equalityImplementation,
    .blank,
    b.hashImplementation,
    .blank,
    b.displayImplementation]

/-- A conversion of this type into another one, after an empty line and what is said about it. -/
def conversionInto (b : Blueprint) (target parameter : String) (about body : Source) : Source :=
  concat [
    .blank,
    about,
    implementation ("From<" ++ b.name ++ ">") target
      (block ("fn from(" ++ parameter ++ ": " ++ b.name ++ ") -> Self") body)]

def castBody (b : Blueprint) (parameter method : String) : Source :=
  ofLines [
    "let " ++ brackets (commas b.pointNames) ++ " = " ++ parameter ++ ".points();",
    "Self::new" ++ parens (commas (b.pointNames.map fun p => p ++ "." ++ method))]

def dimensionCast (b : Blueprint) : Source :=
  match b.castTarget with
  | none => .nothing
  | some target =>
      match b.dimension with
      | .two =>
          b.conversionInto target "curve_2d"
            (doc "Returns this spline segment in 3D, where z = 0")
            (b.castBody "curve_2d" "extend(0.0)")
      | _ =>
          b.conversionInto target "curve_3d"
            (doc "Returns this curve flattened to 2D. Effectively setting z = 0")
            (b.castBody "curve_3d" "truncate()")

def basisConversion (b : Blueprint) (c : Conversion) : Source :=
  b.conversionInto c.target "s" .nothing (concat [
    .line ("let " ++ c.formulas.patternText ++ " = s.points();"),
    callWith "Self::new(" ")" (c.formulas.formulas.map Formula.text)])

def basisConversions (b : Blueprint) : Source :=
  concat (b.conversions.map b.basisConversion)

end Blueprint

end CurveForge
