import CurveForge.Document.Definition
import CurveForge.Segment

/-!
# Splitting a segment

A segment is split by the triangle of its control points. Every intermediate
point is bound to a letter of its own; the point where the halves meet is called
`p`, and `t` is the parameter, so these two letters are passed over. The halves
are the edges of the triangle.
-/

namespace CurveForge

structure PointBinding where
  name : String
  first : String
  second : String
  deriving DecidableEq, Repr

namespace PointBinding

def letters : List String :=
  ["a", "b", "c", "d", "e", "f", "g", "h", "i", "j", "k", "l", "m", "n", "o", "q", "r", "s", "u",
    "v", "w", "x", "y", "z"]

/-- The given number of names from a supply; past its end every name is the same. -/
def takeNames (count : Nat) (supply : List String) : List String :=
  supply.take count ++ List.replicate (count - supply.length) "q"

def row (names level : List String) : List PointBinding :=
  (names.zip (Casteljau.neighbours level)).map fun entry =>
    ⟨entry.1, entry.2.1, entry.2.2⟩

/-- The given number of rows of bindings above a row of names. The last row has one binding. -/
def rowsFrom : Nat → List String → List String → List (List PointBinding)
  | 0, _, _ => []
  | 1, _, level => [row ["p"] level]
  | count + 2, supply, level =>
      let names := takeNames (level.length - 1) supply
      row names level :: rowsFrom (count + 1) (supply.drop (level.length - 1)) names

def rows (points : List String) : List (List PointBinding) :=
  rowsFrom (points.length - 1) letters points

open Source Phrase

def blendText (first second : String) : String :=
  first ++ " + " ++ parens (second ++ " - " ++ first) ++ " * t"

/-- The statement that binds a point; vectors are blended component by component. -/
def statement (d : Dimension) (p : PointBinding) : Source :=
  let opening := "let " ++ p.name ++ ": " ++ d.point ++ " = "
  match d.vector? with
  | none => .line (opening ++ blendText p.first p.second ++ ";")
  | some vector =>
      concat [
        scope (opening ++ vector ++ "::new(") (ofLines (d.components.map fun c =>
          blendText (p.first ++ "." ++ c) (p.second ++ "." ++ c) ++ ",")),
        .line ");"]

end PointBinding

namespace Blueprint

open Source Phrase

def splitBody (d : Dimension) (points : List String) : Source :=
  let rows := PointBinding.rows points
  let halves := Casteljau.edges (points :: rows.map fun row => row.map PointBinding.name)
  concat [
    .line ("let " ++ brackets (commas points) ++ " = self.points();"),
    concat (rows.flatten.map (PointBinding.statement d)),
    .line (parens ("Self::new" ++ parens (commas halves.1) ++
      ", Self::new" ++ parens (commas halves.2)))]

def splitFunction (b : Blueprint) : Source :=
  concat [
    doc "Splits this curve at the given t-value, into two curves that together form the exact same shape",
    parameterHeading,
    parameterDoc "t" "The t-value to split at",
    block "pub fn split(&self, t: f32) -> (Self, Self)" (splitBody b.dimension b.pointNames)]

end Blueprint

end CurveForge
