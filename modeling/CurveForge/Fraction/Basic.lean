import CurveForge.Checked

/-!
# Fractions of machine integers

A fraction is a numerator over a denominator, each a word of 64 bits with a
sign. Arithmetic is exact: it is carried out in wide intermediates, brought to
lowest terms with a positive denominator, and narrowed to words last. A result
whose numerator or denominator does not fit is a fault, the numerator first.

The type itself does not force lowest terms, since a fraction that was read
from a text is kept as written.

A whole number is written alone and any other fraction as numerator, slash and
denominator.
-/

namespace CurveForge

structure Fraction where
  num : Int64
  den : Int64
  deriving DecidableEq, Repr

namespace Fraction

def ofInt64 (n : Int64) : Fraction := ⟨n, 1⟩

instance : Zero Fraction := ⟨ofInt64 0⟩

instance : One Fraction := ⟨ofInt64 1⟩

instance : Inhabited Fraction := ⟨0⟩

def narrow (fault : Fault) (x : Int) : Checked Int64 :=
  if Int64.minValue.toInt ≤ x ∧ x ≤ Int64.maxValue.toInt then .ok (Int64.ofInt x)
  else .error fault

def withPositiveDenominator (n d : Int) : Checked (Int × Int) :=
  if d < 0 then do
    let n' ← Wide.neg n
    let d' ← Wide.neg d
    return (n', d')
  else return (n, d)

def ofWide (n d : Int) : Checked Fraction := do
  let a ← Wide.magnitude n
  let b ← Wide.magnitude d
  let divisor : Int := max (Nat.gcd a b) 1
  let (n', d') ← withPositiveDenominator (n / divisor) (d / divisor)
  let num ← narrow .numeratorOverflow n'
  let den ← narrow .denominatorOverflow d'
  return ⟨num, den⟩

def ofQuotient (n d : Int64) : Checked Fraction :=
  if d = 0 then .error .zeroDenominator else ofWide n.toInt d.toInt

def isZero (a : Fraction) : Bool := a.num == 0

def isInteger (a : Fraction) : Bool := a.den == 1

def isNegative (a : Fraction) : Bool := a.num < 0

/-- Negation of a word; the least word has no negation. -/
def negWord (n : Int64) : Checked Int64 :=
  if n = Int64.minValue then .error .negateOverflow else .ok (-n)

def neg (a : Fraction) : Checked Fraction := do
  let n ← negWord a.num
  return ⟨n, a.den⟩

def abs (a : Fraction) : Checked Fraction :=
  if a.num < 0 then a.neg else .ok a

def recip? (a : Fraction) : Checked (Option Fraction) := do
  if a.isZero then return none
  let inverse ← ofQuotient a.den a.num
  return some inverse

def add (a b : Fraction) : Checked Fraction := do
  let left ← Wide.mul a.num.toInt b.den.toInt
  let right ← Wide.mul b.num.toInt a.den.toInt
  let n ← Wide.add left right
  let d ← Wide.mul a.den.toInt b.den.toInt
  ofWide n d

/-- A difference is the sum with the negated second operand. -/
def sub (a b : Fraction) : Checked Fraction := do
  let opposite ← b.neg
  a.add opposite

def mul (a b : Fraction) : Checked Fraction := do
  let n ← Wide.mul a.num.toInt b.num.toInt
  let d ← Wide.mul a.den.toInt b.den.toInt
  ofWide n d

def div (a b : Fraction) : Checked Fraction := do
  if b.isZero then throw .divisionByZero
  let n ← Wide.mul a.num.toInt b.den.toInt
  let d ← Wide.mul a.den.toInt b.num.toInt
  ofWide n d

/-- Order by cross multiplication, which is the order of values when both denominators are
positive. -/
def compare (a b : Fraction) : Ordering :=
  Ord.compare (a.num.toInt * b.den.toInt) (b.num.toInt * a.den.toInt)

def isWord (a : Fraction) (n : Int64) : Bool := a.den == 1 && a.num == n

def toFloat (a : Fraction) : Float := a.num.toFloat / a.den.toFloat

def wordText (n : Int64) : String := toString n.toInt

def text (a : Fraction) : String :=
  if a.isInteger then wordText a.num else wordText a.num ++ "/" ++ wordText a.den

def debugText (a : Fraction) : String := "Rational(" ++ a.text ++ ")"

end Fraction

end CurveForge
