import Mathlib
import CurveForge.Fraction.Record
import CurveForge.Proofs.Fraction.Arithmetic
import CurveForge.Proofs.Json.Record

/-!
# Fractions that can be obtained

All fractions come from constants, words, quotients, stored texts and arithmetic on
fractions that were obtained before. Only a stored text can bring one that is not in
lowest terms. Without such texts, fractions are equal as pairs of words just when they
are equal as numbers.
-/

namespace CurveForge.Fraction

open Checked (Returns)

def record (a : Fraction) : Json.Entries :=
  [(⟨"n", .signed⟩, .number a.num.toInt), (⟨"d", .signed⟩, .number a.den.toInt)]

theorem fit_record (a : Fraction) : a.record.Fit := by
  intro field listed
  simp only [record, List.mem_cons, List.not_mem_nil, or_false] at listed
  rcases listed with rfl | rfl
  · exact .signed a.num.le_toInt a.num.toInt_lt
  · exact .signed a.den.le_toInt a.den.toInt_lt

theorem toJson_eq_object (a : Fraction) : a.toJson = a.record.object .compact 0 := rfl

/-- A fraction is read back as it was written, in lowest terms or not. -/
theorem ofJson_written (a : Fraction) : ofJson a.toJson = .ok a := by
  have distinct : (a.record.map fun entry => entry.1.name).Nodup :=
    (by decide : ["n", "d"].Nodup)
  have read : Json.readRecord (a.record.map Prod.fst) ((a.record.object .compact 0).toList ++ []) =
      .ok (a.record.map Prod.snd, []) :=
    Json.readRecord_object distinct Json.spaced_compact a.fit_record
  rw [List.append_nil, ← toJson_eq_object] at read
  have words : (⟨Int64.ofInt a.num.toInt, Int64.ofInt a.den.toInt⟩ : Fraction) = a := by
    rw [Int64.ofInt_toInt, Int64.ofInt_toInt]
  have values : Json.readWholeText (Json.readRecord fields) a.toJson = .ok (a.record.map Prod.snd) :=
    Json.readWholeText_of_read read
  rw [ofJson, values]
  exact congrArg Except.ok words

/-- The fractions that constants, words, quotients, the stored texts and arithmetic make. -/
inductive Obtainable (texts : Set String) : Fraction → Prop where
  | zero : Obtainable texts 0
  | one : Obtainable texts 1
  | word (n : Int64) : Obtainable texts (ofInt64 n)
  | quotient {n d : Int64} {c : Fraction} (result : ofQuotient n d = .ok c) : Obtainable texts c
  | stored {text : String} {c : Fraction} (listed : text ∈ texts) (result : ofJson text = .ok c) :
      Obtainable texts c
  | add {a b c : Fraction} (left : Obtainable texts a) (right : Obtainable texts b)
      (result : a.add b = .ok c) : Obtainable texts c
  | sub {a b c : Fraction} (left : Obtainable texts a) (right : Obtainable texts b)
      (result : a.sub b = .ok c) : Obtainable texts c
  | mul {a b c : Fraction} (left : Obtainable texts a) (right : Obtainable texts b)
      (result : a.mul b = .ok c) : Obtainable texts c
  | div {a b c : Fraction} (left : Obtainable texts a) (right : Obtainable texts b)
      (result : a.div b = .ok c) : Obtainable texts c
  | neg {a c : Fraction} (operand : Obtainable texts a) (result : a.neg = .ok c) :
      Obtainable texts c
  | abs {a c : Fraction} (operand : Obtainable texts a) (result : a.abs = .ok c) :
      Obtainable texts c
  | recip {a c : Fraction} (operand : Obtainable texts a) (result : a.recip? = .ok (some c)) :
      Obtainable texts c

variable {a b : Fraction} {texts : Set String}

theorem ofQuotient_returns (n d : Int64) : Returns (ofQuotient n d) Reduced := by
  have fits (word : Int64) : Wide.Fits word.toInt := Wide.fits_of_abs_lt (Wide.abs_word_lt word)
  unfold ofQuotient
  split
  next => trivial
  next nonzero =>
    have wide : d.toInt ≠ 0 := fun zero => nonzero (Int64.toInt_inj.mp zero)
    exact (ofWide_returns wide (fits n) (fits d)).mono fun c holds => holds.1

theorem Reduced.abs_returns (reduced : a.Reduced) : Returns a.abs Reduced := by
  unfold Fraction.abs
  split
  · exact Checked.returns_iff.mpr fun c result => (reduced.neg_yields.of_eq_ok result).1
  · exact reduced

/-- A quotient of numbers is in lowest terms; division by zero has no result. -/
theorem Reduced.div_returns (left : a.Reduced) (b : Fraction) : Returns (a.div b) Reduced := by
  cases divisor : b.isZero with
  | true =>
      unfold div
      rw [divisor]
      trivial
  | false => exact (left.isNumber.div_returns divisor).mono fun c holds => holds.1

/-- Every constructor but a stored text makes lowest terms from lowest terms. The induction is on
how the fraction was obtained. -/
theorem Obtainable.reduced (obtained : Obtainable texts a)
    (stored : ∀ text ∈ texts, ∀ c, ofJson text = .ok c → c.Reduced) : a.Reduced := by
  induction obtained with
  | zero => exact reduced_zero
  | one => exact reduced_one
  | word n => exact reduced_ofInt64 n
  | quotient result => exact (ofQuotient_returns _ _).of_eq_ok result
  | stored listed result => exact stored _ listed _ result
  | add _ _ result left right => exact ((left.add_yields right).of_eq_ok result).1
  | sub _ _ result left right => exact ((left.sub_yields right).of_eq_ok result).1
  | mul _ _ result left right => exact ((left.mul_yields right).of_eq_ok result).1
  | div _ _ result left right => exact (left.div_returns _).of_eq_ok result
  | neg _ result operand => exact (operand.neg_yields.of_eq_ok result).1
  | abs _ result operand => exact operand.abs_returns.of_eq_ok result
  | recip _ result operand => exact (recip?_returns _).of_eq_ok result _ rfl

/-- Cross multiplication finds fractions that stand for numbers equal just when the numbers are. -/
theorem compare_eq_iff (left : a.IsNumber) (right : b.IsNumber) :
    a.compare b = .eq ↔ a.value = b.value := by
  have leftNonzero : (a.den.toInt : ℚ) ≠ 0 := Int.cast_ne_zero.mpr left.den_toInt_ne_zero
  have rightNonzero : (b.den.toInt : ℚ) ≠ 0 := Int.cast_ne_zero.mpr right.den_toInt_ne_zero
  rw [compare, compare_eq_iff_eq, value, value, div_eq_div_iff leftNonzero rightNonzero]
  exact_mod_cast Iff.rfl

/-- All fractions that can be obtained are in lowest terms, and equal just when they stand for the
same number and just when they compare as equal, if and only if the stored texts are of fractions
in lowest terms. -/
theorem obtainable_reduced_iff (texts : Set String) :
    ((∀ a, Obtainable texts a → a.Reduced) ∧
      ∀ a b, Obtainable texts a → Obtainable texts b →
        (a = b ↔ a.value = b.value) ∧ (a = b ↔ a.compare b = .eq)) ↔
      ∀ text ∈ texts, ∀ c, ofJson text = .ok c → c.Reduced := by
  constructor
  · rintro ⟨reduced, -⟩ text listed c result
    exact reduced c (.stored listed result)
  · intro stored
    refine ⟨fun a obtained => obtained.reduced stored, fun a b left right => ?_⟩
    have leftReduced := left.reduced stored
    have rightReduced := right.reduced stored
    have same : a = b ↔ a.value = b.value :=
      ⟨congrArg value, leftReduced.eq_of_value_eq rightReduced⟩
    exact ⟨same, same.trans (compare_eq_iff leftReduced.isNumber rightReduced.isNumber).symm⟩

/-- One half, stored as two over four, differs from one half although it is the same number. -/
theorem obtainable_not_reduced :
    ofJson "\x7b\"n\":2,\"d\":4\x7d" = .ok ⟨2, 4⟩ ∧ Obtainable Set.univ ⟨2, 4⟩ ∧
      Obtainable Set.univ ⟨1, 2⟩ ∧ ¬Reduced ⟨2, 4⟩ ∧ (⟨2, 4⟩ : Fraction) ≠ ⟨1, 2⟩ ∧
      value ⟨2, 4⟩ = value ⟨1, 2⟩ ∧ compare ⟨2, 4⟩ ⟨1, 2⟩ = .eq := by
  have text : toJson ⟨2, 4⟩ = "\x7b\"n\":2,\"d\":4\x7d" := by decide
  have read : ofJson "\x7b\"n\":2,\"d\":4\x7d" = .ok ⟨2, 4⟩ := text ▸ ofJson_written ⟨2, 4⟩
  have equal : compare ⟨2, 4⟩ ⟨1, 2⟩ = .eq := by decide
  have quotient : ofQuotient 1 2 = .ok ⟨1, 2⟩ := by decide
  exact ⟨read, .stored (Set.mem_univ _) read, .quotient quotient, by decide, by decide,
    (compare_eq_iff (by decide) (by decide)).mp equal, equal⟩

end CurveForge.Fraction
