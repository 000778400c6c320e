import Mathlib
import CurveForge.Catalog.Standard
import CurveForge.Proofs.Naming.Module

/-!
# Names identify their types

The identifier, the degree and the dimension stand in a type name without anything
between them. They can still be told apart from the end of the name: the dimension is
all digits there, no word of a degree ends with a digit, and none of them is the end of
another. This stays so in lower case, so a module name keeps degree and dimension too.
-/

namespace CurveForge

section Texts

variable {p : Char → Bool} {front other back rest : List Char}

theorem eq_nil_of_last (inside : ∀ c ∈ back, p c = true)
    (last : ∀ c ∈ (front ++ back).getLast?, p c = false) : back = [] := by
  by_contra nonempty
  have final : (front ++ back).getLast? = some (back.getLast nonempty) := by
    rw [List.getLast?_append_of_ne_nil _ nonempty, List.getLast?_eq_some_getLast nonempty]
  have yes := inside _ (List.getLast_mem nonempty)
  rw [last _ final] at yes
  cases yes

/-- Characters of one kind are found again behind a text that ends with another kind. -/
theorem append_inj_of_last (inside : ∀ c ∈ back, p c = true) (otherInside : ∀ c ∈ rest, p c = true)
    (last : ∀ c ∈ front.getLast?, p c = false) (otherLast : ∀ c ∈ other.getLast?, p c = false)
    (same : front ++ back = other ++ rest) : front = other ∧ back = rest := by
  rcases List.append_eq_append_iff.mp same with ⟨more, rfl, rfl⟩ | ⟨more, rfl, rfl⟩
  · have none := eq_nil_of_last (fun c member => inside c (List.mem_append_left _ member)) otherLast
    subst none
    exact ⟨(List.append_nil front).symm, rfl⟩
  · have none := eq_nil_of_last (fun c member => otherInside c (List.mem_append_left _ member)) last
    subst none
    exact ⟨List.append_nil other, rfl⟩

end Texts

def shortWords : List (Nat × String) :=
  [(1, "Linear"), (2, "Quad"), (3, "Cubic"), (4, "Quartic"), (5, "Quintic")]

theorem mem_shortWords {degree : Nat} {word : String}
    (worded : degreeName .short degree = .ok word) : (degree, word) ∈ shortWords := by
  unfold degreeName at worded
  split at worded
  next => cases worded; decide
  next => cases worded; decide
  next long => cases long
  next => cases worded; decide
  next => cases worded; decide
  next => cases worded; decide
  next => cases worded

/-- A way to spell the words of degrees that tells them by their ends. -/
structure TellsDegrees (spell : String → List Char) : Prop where
  apart : ∀ a ∈ shortWords, ∀ b ∈ shortWords, (spell a.2).isSuffixOf (spell b.2) = true → a.1 = b.1
  nonempty : ∀ a ∈ shortWords, spell a.2 ≠ []
  ends : ∀ a ∈ shortWords, (spell a.2).getLast?.all (fun c => !c.isDigit) = true

namespace TellsDegrees

variable {spell : String → List Char} {m n d e : Nat} {word other : String}
  {front rest : List Char}

/-- A word behind a text is found again from the end. -/
theorem word_inj (tells : TellsDegrees spell) (worded : degreeName .short m = .ok word)
    (otherWorded : degreeName .short n = .ok other)
    (same : front ++ spell word = rest ++ spell other) : front = rest ∧ m = n := by
  have listed := mem_shortWords worded
  have otherListed := mem_shortWords otherWorded
  have degrees : m = n := by
    rcases List.suffix_or_suffix_of_suffix (List.suffix_append front (spell word))
      (same ▸ List.suffix_append rest (spell other)) with inside | inside
    · exact tells.apart _ listed _ otherListed (List.isSuffixOf_iff_suffix.mpr inside)
    · exact (tells.apart _ otherListed _ listed (List.isSuffixOf_iff_suffix.mpr inside)).symm
  subst degrees
  cases worded.symm.trans otherWorded
  exact ⟨List.append_cancel_right same, rfl⟩

theorem last_not_digit (tells : TellsDegrees spell) (worded : degreeName .short m = .ok word) :
    ∀ c ∈ (front ++ spell word).getLast?, c.isDigit = false := by
  have listed := mem_shortWords worded
  rw [List.getLast?_append_of_ne_nil _ (tells.nonempty _ listed)]
  intro c last
  simpa using (Option.all_eq_true _ _).mp (tells.ends _ listed) c last

/-- A text, the word of a degree and a number are found again from the end. -/
theorem parts_inj (tells : TellsDegrees spell) (worded : degreeName .short m = .ok word)
    (otherWorded : degreeName .short n = .ok other)
    (same : front ++ spell word ++ Nat.toDigits 10 d = rest ++ spell other ++ Nat.toDigits 10 e) :
    front = rest ∧ m = n ∧ d = e := by
  have digit (k : Nat) : ∀ c ∈ Nat.toDigits 10 k, c.isDigit = true :=
    fun _ => Nat.isDigit_of_mem_toDigits (by decide) (by decide)
  obtain ⟨stems, digits⟩ := append_inj_of_last (digit d) (digit e)
    (tells.last_not_digit worded) (tells.last_not_digit otherWorded) same
  obtain ⟨fronts, degrees⟩ := tells.word_inj worded otherWorded stems
  refine ⟨fronts, degrees, ?_⟩
  rw [← Nat.ofDigitChars_ten_toDigits (n := d), digits, Nat.ofDigitChars_ten_toDigits]

end TellsDegrees

theorem tellsDegrees_toList : TellsDegrees String.toList where
  apart := by decide
  nonempty := by decide
  ends := by decide

namespace Text

/-- A text in lower case, each character on its own, with all underscores left out. -/
def folded (text : String) : List Char := (text.toList.flatMap lowercaseChar).filter (· ≠ '_')

theorem folded_append (front back : String) : folded (front ++ back) = folded front ++ folded back := by
  simp [folded]

theorem folded_toString (n : Nat) : folded (toString n) = Nat.toDigits 10 n := by
  have lower : (Nat.toDigits 10 n).flatMap lowercaseChar = Nat.toDigits 10 n := by
    have single : ∀ c ∈ Nat.toDigits 10 n, lowercaseChar c = [c] := fun c member =>
      lowercaseChar_of_isDigit (Nat.isDigit_of_mem_toDigits (by decide) (by decide) member)
    rw [List.flatMap_congr single, List.flatMap_singleton']
  have plain : ∀ c ∈ Nat.toDigits 10 n, decide (c ≠ '_') = true := by
    intro c member
    refine decide_eq_true ?_
    rintro rfl
    cases Nat.isDigit_of_mem_toDigits (by decide) (by decide) member
  rw [folded, show (toString n).toList = Nat.toDigits 10 n from Nat.toList_repr, lower,
    List.filter_eq_self.mpr plain]

end Text

theorem tellsDegrees_folded : TellsDegrees Text.folded where
  apart := by decide +kernel
  nonempty := by decide +kernel
  ends := by decide +kernel

/-- The underscores between the words are all that a module name adds to the lower case. -/
theorem filter_moduleNameAfter (previous : Char) (rest : List Char) :
    (moduleNameAfter previous rest).filter (· ≠ '_') =
      (rest.flatMap Text.lowercaseChar).filter (· ≠ '_') := by
  induction rest generalizing previous with
  | nil => rfl
  | cons c rest ih =>
      have mark : (if startsWord previous c rest.head? then ['_'] else []).filter (· ≠ '_') = [] := by
        split <;> rfl
      rw [moduleNameAfter, List.filter_append, List.filter_append, mark, ih, List.nil_append,
        List.flatMap_cons, List.filter_append]

theorem filter_moduleName (typeName : String) :
    (moduleName typeName).toList.filter (· ≠ '_') = Text.folded typeName := by
  unfold moduleName Text.folded
  split
  next none => simp [none]
  next c rest spelled =>
    rw [String.toList_ofList, List.filter_append, filter_moduleNameAfter, spelled,
      List.flatMap_cons, List.filter_append]

/-- A type name tells identifier, degree and dimension. Its module name tells degree and dimension,
and the identifier up to case and underscores. -/
theorem typeName_identifies {f g : Family} {word other : String}
    (worded : degreeName .short f.degree = .ok word)
    (otherWorded : degreeName .short g.degree = .ok other) (d e : Nat) :
    ∃ name otherName, f.typeName d = .ok name ∧ g.typeName e = .ok otherName ∧
      (name = otherName ↔ f.id = g.id ∧ f.degree = g.degree ∧ d = e) ∧
      (moduleName name = moduleName otherName →
        f.degree = g.degree ∧ d = e ∧ Text.folded f.id = Text.folded g.id) := by
  refine ⟨_, _, Family.typeName_of_word worded d, Family.typeName_of_word otherWorded e, ⟨?_, ?_⟩, ?_⟩
  · intro same
    have spelled := congrArg String.toList same
    simp only [String.toList_append] at spelled
    have stems := List.append_cancel_right spelled
    rw [show (toString d).toList = Nat.toDigits 10 d from Nat.toList_repr,
      show (toString e).toList = Nat.toDigits 10 e from Nat.toList_repr] at stems
    obtain ⟨ids, degrees, dimensions⟩ := tellsDegrees_toList.parts_inj worded otherWorded stems
    exact ⟨String.toList_inj.mp ids, degrees, dimensions⟩
  · rintro ⟨ids, degrees, rfl⟩
    rw [degrees] at worded
    cases worded.symm.trans otherWorded
    rw [ids]
  · intro same
    have spelled := congrArg (fun text : String => text.toList.filter (· ≠ '_')) same
    simp only [filter_moduleName, Text.folded_append, Text.folded_toString] at spelled
    obtain ⟨ids, degrees, dimensions⟩ :=
      tellsDegrees_folded.parts_inj worded otherWorded (List.append_cancel_right spelled)
    exact ⟨degrees, dimensions, ids⟩

def snakeCased : Family := { Catalog.bezierCubic with id := "A_b" }

def camelCased : Family := { Catalog.bezierCubic with id := "aB" }

/-- Two types with different names whose modules have one name. -/
theorem typeName_identifies_similar :
    degreeName .short snakeCased.degree = .ok "Cubic" ∧
    degreeName .short camelCased.degree = .ok "Cubic" ∧
    ∃ name otherName, snakeCased.typeName 2 = .ok name ∧ camelCased.typeName 2 = .ok otherName ∧
      name ≠ otherName ∧ moduleName name = moduleName otherName ∧
      Text.folded snakeCased.id = Text.folded camelCased.id := by
  obtain ⟨name, otherName, named, otherNamed, identify, modules⟩ :=
    typeName_identifies (f := snakeCased) (g := camelCased) rfl rfl 2 2
  have differ : name ≠ otherName := by
    intro same
    exact absurd (identify.mp same).1 (by decide)
  have one : moduleName name = moduleName otherName := by
    cases named
    cases otherNamed
    decide +kernel
  exact ⟨rfl, rfl, name, otherName, named, otherNamed, differ, one, (modules one).2.2⟩

end CurveForge
