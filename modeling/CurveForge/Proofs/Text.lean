import Mathlib
import CurveForge.Text.Lowercase

/-!
# Digits and lower case forms

Whole numbers are written with decimal digits, behind a minus sign if they are
negative. Only zero itself starts with the digit zero.

Putting a text into lower case brings no punctuation into it: of the ASCII
characters, only small letters are the lower case form of another character.
-/

namespace CurveForge.Text

/-- The characters of a whole number. -/
theorem toList_toString_int (value : Int) :
    (toString value).toList = match value with
      | .ofNat n => Nat.toDigits 10 n
      | .negSucc n => '-' :: Nat.toDigits 10 (n + 1) := by
  cases value with
  | ofNat n => exact Nat.toList_repr
  | negSucc n =>
      have spelled : (toString (Int.negSucc n)).toList = '-' :: (toString (n + 1)).toList := by
        rw [show toString (Int.negSucc n) = "-" ++ toString (n + 1) from rfl]
        simp
      exact spelled.trans (congrArg _ Nat.toList_repr)

/-- The induction goes from a number to the one without its last digit. -/
theorem head?_toDigits_ne_zero {n : Nat} (positive : 0 < n) :
    (Nat.toDigits 10 n).head? ≠ some '0' := by
  induction n using Nat.strong_induction_on with
  | _ n ih =>
      rcases Nat.lt_or_ge n 10 with small | large
      · have digits : ∀ k : Fin 10, 0 < k.val → Nat.digitChar k ≠ '0' := by decide
        rw [Nat.toDigits_of_lt_base small, List.head?_cons]
        exact fun zero => digits ⟨n, small⟩ positive (Option.some.inj zero)
      · rw [Nat.toDigits_of_base_le (by decide) large,
          List.head?_append_of_ne_nil _ Nat.toDigits_ne_nil]
        exact ih (n / 10) (by omega) (by omega)

/-- Every lower case form in the table is a small ASCII letter or comes behind ASCII. -/
theorem loweringRuns_apart :
    (loweringRuns.all fun shifted =>
      (97 ≤ (shifted.run.first : Int) + shifted.shift && (shifted.run.last : Int) + shifted.shift < 123) ||
        128 ≤ (shifted.run.first : Int) + shifted.shift) = true := by
  decide

/-- A character that is no ASCII punctuation: a small letter, or a character behind ASCII. The
null character stands for a code without a character. -/
def IsLowered (c : Char) : Prop :=
  (97 ≤ c.toNat ∧ c.toNat < 123) ∨ 128 ≤ c.toNat ∨ c.toNat = 0

instance (c : Char) : Decidable (IsLowered c) := inferInstanceAs (Decidable (_ ∨ _))

theorem isLowered_ofNat {n : Nat} (apart : (97 ≤ n ∧ n < 123) ∨ 128 ≤ n) :
    IsLowered (Char.ofNat n) := by
  unfold IsLowered
  rw [Char.toNat_ofNat]
  split
  · omega
  · exact .inr (.inr rfl)

/-- The lower case form of a character is the character itself or no ASCII punctuation. -/
theorem eq_or_isLowered {c lowered : Char} (member : lowered ∈ lowercaseChar c) :
    lowered = c ∨ IsLowered lowered := by
  unfold lowercaseChar at member
  split at member
  · rcases List.mem_pair.mp member with rfl | rfl
    · exact .inr (.inl (by decide))
    · exact .inr (isLowered_ofNat (.inr (by decide)))
  · split at member
    · next shifted found =>
        have listed := List.mem_of_find?_eq_some found
        have inside := List.find?_some found
        have apart := List.all_eq_true.mp loweringRuns_apart shifted listed
        simp only [Run.contains, Bool.and_eq_true, Bool.or_eq_true, decide_eq_true_eq] at inside apart
        rw [List.mem_singleton.mp member]
        exact .inr (isLowered_ofNat (by omega))
    · exact .inl (List.mem_singleton.mp member)

/-- Everything that the table puts into lower case comes behind the digits. -/
theorem loweringRuns_behind_digits :
    (loweringRuns.all fun shifted => 58 ≤ shifted.run.first) = true := by
  decide

theorem lowercaseChar_of_isDigit {c : Char} (digit : c.isDigit = true) : lowercaseChar c = [c] := by
  have code : c.toNat ≤ 57 := ((Char.isDigit_iff_toNat).mp digit).2
  have missing : loweringRuns.find? (fun shifted => shifted.run.contains c.toNat) = none := by
    refine List.find?_eq_none.mpr fun shifted listed inside => ?_
    have behind := List.all_eq_true.mp loweringRuns_behind_digits shifted listed
    simp only [Run.contains, Bool.and_eq_true, decide_eq_true_eq] at inside behind
    omega
  unfold lowercaseChar
  rw [if_neg (by omega), missing]

/-- The characters of a text in lower case are its own or no ASCII punctuation. -/
theorem mem_or_isLowered {text : String} {c : Char} (member : c ∈ (lowercase text).toList) :
    c ∈ text.toList ∨ IsLowered c := by
  have run (before chars : List Char) (inside : c ∈ lowercaseAfter before chars) :
      c ∈ chars ∨ IsLowered c := by
    induction chars generalizing before with
    | nil => exact absurd inside List.not_mem_nil
    | cons first rest ih =>
        rcases List.mem_append.mp inside with here | later
        · split at here
          · have sigma : c = finalSigma ∨ c = smallSigma := by
              split at here
              · exact .inl (List.mem_singleton.mp here)
              · exact .inr (List.mem_singleton.mp here)
            rcases sigma with rfl | rfl
            · exact .inr (isLowered_ofNat (.inr (by decide)))
            · exact .inr (isLowered_ofNat (.inr (by decide)))
          · rcases eq_or_isLowered here with rfl | lowered
            · exact .inl List.mem_cons_self
            · exact .inr lowered
        · exact (ih (first :: before) later).imp_left (List.mem_cons_of_mem _)
  rw [lowercase, String.toList_ofList] at member
  exact run [] text.toList member

end CurveForge.Text
