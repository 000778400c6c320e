import CurveForge.Catalog.Basic
import CurveForge.Fraction.Basic
import CurveForge.Matrix.Elimination

/-!
# Formulas

The expressions that compute one value as a weighted sum of named variables. A
formula lists signed terms; a factor shared by all of them stands outside, as a
divisor behind the parenthesised sum or as a multiplier before it.

A linear sum collects weighted variables and turns them into a formula. Zero
weights are dropped when they are added. If there are two terms or more and all
their weights have the magnitude of the first, that magnitude is factored out;
a magnitude of one over a whole number becomes a divisor.

Each row of a matrix is the formula of one value in the named points. The rows of
a characteristic matrix give the coefficients of the powers of the parameter,
those of a conversion matrix the points of another family.
-/

namespace CurveForge

/-- How whole numbers are written: bare, or with a decimal point and a zero. -/
inductive NumberStyle where
  | integer
  | float
  deriving DecidableEq, Repr

instance : Inhabited NumberStyle := ⟨.integer⟩

def NumberStyle.wordText : NumberStyle → Int64 → String
  | integer, n => Fraction.wordText n
  | float, n => Fraction.wordText n ++ ".0"

inductive Literal where
  | whole (style : NumberStyle) (value : Int64)
  | quotient (num den : Int64)
  deriving DecidableEq, Repr

namespace Literal

def ofFraction (style : NumberStyle) (value : Fraction) : Literal :=
  if value.isInteger then .whole style value.num else .quotient value.num value.den

def text : Literal → String
  | whole style value => style.wordText value
  | quotient num den =>
      "(" ++ NumberStyle.float.wordText num ++ "/" ++ NumberStyle.float.wordText den ++ ")"

end Literal

/-- A variable with a sign and, unless it is one, a factor. -/
structure SignedTerm where
  negative : Bool
  factor : Option Literal
  name : String
  deriving DecidableEq, Repr

namespace SignedTerm

/-- The sign that stands before a term; a leading plus is left out. -/
def signText (first : Bool) (term : SignedTerm) : String :=
  if term.negative then "-" else if first then "" else "+"

def factorText (term : SignedTerm) : String :=
  match term.factor with
  | some literal => literal.text ++ "*"
  | none => ""

def text (first : Bool) (term : SignedTerm) : String :=
  term.signText first ++ term.factorText ++ term.name

/-- Terms in a row, the first without a leading plus. -/
def rowText : List SignedTerm → String
  | [] => ""
  | first :: rest => first.text true ++ String.join (rest.map (text false))

end SignedTerm

inductive Formula where
  | zero
  | sum (terms : List SignedTerm)
  | divided (terms : List SignedTerm) (divisor : Literal)
  | multiplied (factor : Literal) (terms : List SignedTerm)
  deriving DecidableEq, Repr

def Formula.text : Formula → String
  | zero => "0"
  | sum terms => SignedTerm.rowText terms
  | divided terms divisor => "(" ++ SignedTerm.rowText terms ++ ")/" ++ divisor.text
  | multiplied factor terms => factor.text ++ "*(" ++ SignedTerm.rowText terms ++ ")"

structure WeightedTerm where
  weight : Fraction
  name : String
  deriving DecidableEq, Repr

structure LinearSum where
  terms : List WeightedTerm
  style : NumberStyle
  deriving DecidableEq, Repr

namespace LinearSum

def empty (style : NumberStyle) : LinearSum := ⟨[], style⟩

def add (sum : LinearSum) (weight : Fraction) (name : String) : LinearSum :=
  if weight.isZero then sum else ⟨sum.terms ++ [⟨weight, name⟩], sum.style⟩

/-- The sum of weights and variables taken in pairs; the longer list is cut. -/
def ofPairs (weights : List Fraction) (names : List String) (style : NumberStyle) : LinearSum :=
  (weights.zip names).foldl (fun sum pair => sum.add pair.1 pair.2) (empty style)

/-- Whether all weights have the given magnitude; the first that has not ends the test. -/
def allOfMagnitude (scale : Fraction) : List WeightedTerm → Checked Bool
  | [] => .ok true
  | term :: rest => do
      let magnitude ← term.weight.abs
      if magnitude = scale then allOfMagnitude scale rest else return false

/-- The magnitude shared by two or more terms. -/
def commonScale? (sum : LinearSum) : Checked (Option Fraction) :=
  match sum.terms with
  | first :: second :: rest => do
      let scale ← first.weight.abs
      let shared ← allOfMagnitude scale (second :: rest)
      return if shared then some scale else none
  | _ => .ok none

/-- The signed term of a weight; a weight of one or minus one leaves no factor. -/
def signedTerm (style : NumberStyle) (weight : Fraction) (name : String) : Checked SignedTerm :=
  if weight = 1 then .ok ⟨false, none, name⟩
  else if weight = ⟨-1, 1⟩ then .ok ⟨true, none, name⟩
  else if weight.isNegative then do
    let magnitude ← weight.abs
    return ⟨true, some (.ofFraction style magnitude), name⟩
  else .ok ⟨false, some (.ofFraction style weight), name⟩

def scaledTerms (sum : LinearSum) (scale : Fraction) : Checked (List SignedTerm) :=
  sum.terms.mapM fun term => do
    let weight ← term.weight.div scale
    signedTerm sum.style weight term.name

def withScale (style : NumberStyle) (scale : Fraction) (terms : List SignedTerm) : Formula :=
  if scale = 1 then .sum terms
  else if scale.num = 1 then .divided terms (.whole style scale.den)
  else .multiplied (.ofFraction style scale) terms

def formula (sum : LinearSum) : Checked Formula :=
  if sum.terms.isEmpty then .ok .zero
  else do
    let scale := (← sum.commonScale?).getD 1
    let terms ← sum.scaledTerms scale
    return withScale sum.style scale terms

def render (sum : LinearSum) : Checked String := do
  let formula ← sum.formula
  return formula.text

end LinearSum

/-- The formula of every row; names and weights are paired, the longer list is cut. -/
def SquareMatrix.formulas (m : SquareMatrix) (names : List String) (style : NumberStyle) :
    Checked (List Formula) :=
  m.rows.mapM fun row => (LinearSum.ofPairs row names style).formula

/-- The coefficients of the powers of the parameter, the lowest first. -/
def polynomialRows (f : Family) (style : NumberStyle) : Checked (List String) := do
  let formulas ← f.matrix.formulas f.pointNames style
  return formulas.map Formula.text

def conversionRows (source target : Family) (style : NumberStyle) : Generation (List String) := do
  let matrix ← source.matrix.conversion target.matrix
  let formulas ← matrix.formulas source.pointNames style
  return formulas.map Formula.text

def usesColumn (col : Nat) : List (List Fraction) → Checked Bool
  | [] => .ok false
  | row :: rest =>
      match row[col]? with
      | none => .error .outOfBounds
      | some weight => if weight.isZero then usesColumn col rest else .ok true

structure PointFormulas where
  pattern : List (Option String)
  formulas : List Formula
  deriving DecidableEq, Repr

namespace PointFormulas

/-- The names in order, each of them present if a formula may use it. -/
def usedNames (m : SquareMatrix) (names : List String) : Checked (List (Option String)) :=
  names.zipIdx.mapM fun entry => do
    let used ← usesColumn entry.2 m.rows
    return if used then some entry.1 else none

/-- The emitted formulas of a matrix, whose literals are float literals. There has to be a last
one. -/
def ofMatrix (m : SquareMatrix) (names : List String) : Checked PointFormulas := do
  let pattern ← usedNames m names
  let formulas ← m.formulas names .float
  if formulas.isEmpty then throw .subtractOverflow
  return ⟨pattern, formulas⟩

def patternText (p : PointFormulas) : String :=
  "[" ++ ", ".intercalate (p.pattern.map fun name => name.getD "_") ++ "]"

end PointFormulas

end CurveForge
