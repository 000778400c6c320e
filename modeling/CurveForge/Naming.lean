import CurveForge.Generation
import CurveForge.Text.Classes
import CurveForge.Text.Lowercase

/-!
# Names of types and modules

The degrees from one to five have a short name, used inside type names, and a
long name, used in documentation and constructors. Only degree two tells them
apart.

Segment types are made for points on a line, in the plane and in space. Each
dimension fixes the types and functions that the emitted code works with.

A type name is split into words, each word is put into lower case, and the words
are joined by underscores. A word starts at a capital behind a small letter, at
the last of several capitals if a small letter follows it, and at a digit behind
a letter.
-/

namespace CurveForge

inductive NameLength where
  | short
  | long
  deriving DecidableEq, Repr

def degreeName (length : NameLength) (degree : Nat) : Except GenerationError String :=
  match degree, length with
  | 1, _ => .ok "Linear"
  | 2, .short => .ok "Quad"
  | 2, .long => .ok "Quadratic"
  | 3, _ => .ok "Cubic"
  | 4, _ => .ok "Quartic"
  | 5, _ => .ok "Quintic"
  | _, _ => .error (.unsupportedDegree degree)

inductive Dimension where
  | one
  | two
  | three
  deriving DecidableEq, Repr

namespace Dimension

def all : List Dimension := [one, two, three]

def number : Dimension → Nat
  | one => 1
  | two => 2
  | three => 3

def ofNumber (n : Nat) : Except GenerationError Dimension :=
  match n with
  | 1 => .ok one
  | 2 => .ok two
  | 3 => .ok three
  | _ => .error (.unsupportedDimension n)

def text (d : Dimension) : String := toString d.number ++ "D"

def point : Dimension → String
  | one => "f32"
  | two => "Vector2<f32>"
  | three => "Vector3<f32>"

def vector? : Dimension → Option String
  | one => none
  | two => some "Vector2"
  | three => some "Vector3"

def polynomial : Dimension → String
  | one => "Polynomial"
  | two => "Polynomial2D"
  | three => "Polynomial3D"

def segmentTrait : Dimension → String
  | one => "ParamCubicSplineSegment1D"
  | two => "ParamCubicSplineSegment2D"
  | three => "ParamCubicSplineSegment3D"

def lerp : Dimension → String
  | one => "lerp"
  | two => "Vector2::lerp"
  | three => "Vector3::lerp"

def components : Dimension → List String
  | one => ["x"]
  | two => ["x", "y"]
  | three => ["x", "y", "z"]

end Dimension

def lerpName (dimension : Nat) : Except GenerationError String :=
  (Dimension.ofNumber dimension).map Dimension.lerp

/-- Whether a word starts at a character, given its neighbours. -/
def startsWord (previous c : Char) (next : Option Char) : Bool :=
  (Text.isUppercase c &&
    (Text.isLowercase previous ||
      (Text.isUppercase previous && next.any Text.isLowercase))) ||
  (('0' ≤ c && c ≤ '9') && Text.isAlphabetic previous)

def moduleNameAfter (previous : Char) : List Char → List Char
  | [] => []
  | c :: rest =>
      (if startsWord previous c rest.head? then ['_'] else []) ++
        Text.lowercaseChar c ++ moduleNameAfter c rest

def moduleName (typeName : String) : String :=
  match typeName.toList with
  | [] => ""
  | c :: rest => String.ofList (Text.lowercaseChar c ++ moduleNameAfter c rest)

end CurveForge
