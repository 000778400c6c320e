import Mathlib
import CurveForge.Proofs.Fraction.Arithmetic

/-!
# Kinds of fractions that arithmetic keeps

Arithmetic on fractions in lowest terms ends in one or in a result that is no word.
Fractions that stand for numbers stay such, and whatever the operands are, only a
result that is no word or a sum that is too wide can end an operation.
-/

namespace CurveForge

open Checked (Ends Yields)

theorem Wide.check_ends {allowed : Fault → Prop} {fault : Fault} (listed : allowed fault) (x : Int) :
    Ends allowed (Wide.check fault x) fun _ => True := by
  unfold Wide.check
  split
  · trivial
  · exact listed

theorem Wide.neg_yields (x : Int) : Yields (Wide.neg x) fun _ => True :=
  Wide.check_ends (.inr (.inr rfl)) _

namespace Fraction

variable {a b : Fraction}

theorem narrow_yields {fault : Fault} (overflow : fault.IsOverflow) (x : Int) :
    Yields (narrow fault x) fun _ => True := by
  unfold narrow
  split
  · trivial
  · exact overflow

/-- Not even a wide quotient by zero ends in another fault. -/
theorem ofWide_yields (n d : Int) : Yields (ofWide n d) fun _ => True := by
  have magnitude (x : Int) : Yields (Wide.magnitude x) fun _ => True := by
    unfold Wide.magnitude
    split
    · exact (Wide.neg_yields x).bind fun _ _ => trivial
    · trivial
  have positive (n d : Int) : Yields (withPositiveDenominator n d) fun _ => True := by
    unfold withPositiveDenominator
    split
    · exact (Wide.neg_yields n).bind fun _ _ => (Wide.neg_yields d).bind fun _ _ => trivial
    · trivial
  apply (magnitude n).bind
  intro numMagnitude _
  apply (magnitude d).bind
  intro denMagnitude _
  apply (positive _ _).bind
  intro parts _
  apply (narrow_yields (.inl rfl) parts.1).bind
  intro num _
  exact (narrow_yields (.inr (.inl rfl)) parts.2).bind fun _ _ => trivial

/-- Arithmetic on fractions of the kind ends in a fraction of the kind or in an allowed fault. -/
structure Closed (allowed : Fault → Prop) (kind : Fraction → Prop) : Prop where
  zero : kind 0
  one : kind 1
  add {a b : Fraction} (left : kind a) (right : kind b) : Ends allowed (a.add b) kind
  sub {a b : Fraction} (left : kind a) (right : kind b) : Ends allowed (a.sub b) kind
  mul {a b : Fraction} (left : kind a) (right : kind b) : Ends allowed (a.mul b) kind
  inverse {a : Fraction} (operand : kind a) :
    Ends allowed a.recip? fun inverse => ∀ c ∈ inverse, kind c

theorem closed_reduced : Closed Fault.IsOverflow Reduced where
  zero := reduced_zero
  one := reduced_one
  add left right := (left.add_yields right).mono fun _ holds => holds.1
  sub left right := (left.sub_yields right).mono fun _ holds => holds.1
  mul left right := (left.mul_yields right).mono fun _ holds => holds.1
  inverse _ := recip?_keeps _

theorem closed_isNumber : Closed (fun _ => True) IsNumber where
  zero := reduced_zero.isNumber
  one := reduced_one.isNumber
  add left right := (left.add_returns right).mono fun _ holds => holds.1.isNumber
  sub left right := (left.sub_returns right).mono fun _ holds => holds.1.isNumber
  mul left right := (left.mul_returns right).mono fun _ holds => holds.1.isNumber
  inverse _ := (recip?_returns _).mono fun _ holds c chosen => (holds c chosen).isNumber

theorem add_ends (a b : Fraction) : Ends Fault.IsArithmetic (a.add b) fun _ => True := by
  unfold add
  rw [Wide.mul_words, Wide.mul_words, Wide.mul_words]
  apply (Wide.check_ends (.inr rfl) _).bind
  intro n _
  exact (ofWide_yields _ _).allow fun _ => .inl

theorem sub_ends (a b : Fraction) : Ends Fault.IsArithmetic (a.sub b) fun _ => True := by
  have opposite : Ends Fault.IsArithmetic b.neg fun _ => True := by
    unfold neg negWord
    split
    · exact .inl (.inr (.inr rfl))
    · trivial
  exact opposite.bind fun c _ => add_ends a c

theorem mul_ends (a b : Fraction) : Ends Fault.IsArithmetic (a.mul b) fun _ => True := by
  unfold mul
  rw [Wide.mul_words, Wide.mul_words]
  exact (ofWide_yields _ _).allow fun _ => .inl

/-- The operands of arithmetic do not matter if only its faults are asked for. -/
theorem closed_any : Closed Fault.IsArithmetic fun _ => True where
  zero := trivial
  one := trivial
  add _ _ := add_ends _ _
  sub _ _ := sub_ends _ _
  mul _ _ := mul_ends _ _
  inverse _ := ((recip?_keeps _).allow fun _ => .inl).mono fun _ _ _ _ => trivial

end Fraction

end CurveForge
