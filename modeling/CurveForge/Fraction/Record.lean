import CurveForge.Fraction.Basic
import CurveForge.Json.Record

/-!
# Fractions as records

A fraction is stored as a record of its numerator and denominator. Reading takes
the two words as they stand: they are neither reduced nor tested.
-/

namespace CurveForge.Fraction

def fields : List Json.Field := [⟨"n", .signed⟩, ⟨"d", .signed⟩]

def ofFieldValues : List Json.FieldValue → Except Json.Rejection Fraction
  | [.number n, .number d] => .ok ⟨Int64.ofInt n, Int64.ofInt d⟩
  | _ => .error .mismatch

def ofJson (text : String) : Except Json.Rejection Fraction := do
  let values ← Json.readWholeText (Json.readRecord fields) text
  ofFieldValues values

def toJson (a : Fraction) : String :=
  Json.Layout.compact.object 0 [("n", wordText a.num), ("d", wordText a.den)]

end CurveForge.Fraction
