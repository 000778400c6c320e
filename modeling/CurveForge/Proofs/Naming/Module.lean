import Mathlib
import CurveForge.Naming
import CurveForge.Proofs.Document.Blueprint
import CurveForge.Proofs.Text

/-!
# Names of modules

The characters of a module name are the lower case forms of those of its type
name, with underscores between them. No other punctuation arises that way, and the
digit of the dimension remains.
-/

namespace CurveForge

namespace Text

/-- Punctuation is not the lower case form of another character. -/
theorem notMem_lowercaseChar {mark c : Char} (unlowered : ¬IsLowered mark) (other : c ≠ mark) :
    mark ∉ lowercaseChar c := by
  intro member
  rcases eq_or_isLowered member with same | lowered
  · exact other same.symm
  · exact unlowered lowered

end Text

section Absent

variable {mark : Char} (unlowered : ¬Text.IsLowered mark) (noUnderscore : mark ≠ '_')
include unlowered noUnderscore

theorem notMem_moduleNameAfter {rest : List Char} (absent : mark ∉ rest) (previous : Char) :
    mark ∉ moduleNameAfter previous rest := by
  induction rest generalizing previous with
  | nil => exact List.not_mem_nil
  | cons c rest ih =>
      obtain ⟨other, later⟩ := List.ne_and_not_mem_of_not_mem_cons absent
      have here := Text.notMem_lowercaseChar unlowered (Ne.symm other)
      have separator : mark ∉ (if startsWord previous c rest.head? then ['_'] else []) := by
        split <;> simp [noUnderscore]
      simp only [moduleNameAfter, List.mem_append, not_or]
      exact ⟨⟨separator, here⟩, ih later c⟩

/-- Punctuation other than underscores comes into a module name from the type name only. -/
theorem notMem_moduleName {typeName : String} (absent : mark ∉ typeName.toList) :
    mark ∉ (moduleName typeName).toList := by
  unfold moduleName
  split
  · exact List.not_mem_nil
  · next c rest spelled =>
      rw [spelled] at absent
      obtain ⟨other, later⟩ := List.ne_and_not_mem_of_not_mem_cons absent
      rw [String.toList_ofList, List.mem_append, not_or]
      exact ⟨Text.notMem_lowercaseChar unlowered (Ne.symm other),
        notMem_moduleNameAfter unlowered noUnderscore later c⟩

end Absent

theorem mem_moduleNameAfter {c lowered : Char} {rest : List Char} (member : c ∈ rest)
    (lower : lowered ∈ Text.lowercaseChar c) (previous : Char) :
    lowered ∈ moduleNameAfter previous rest := by
  induction rest generalizing previous with
  | nil => cases member
  | cons first rest ih =>
      rw [moduleNameAfter, List.append_assoc, List.mem_append, List.mem_append]
      rcases List.mem_cons.mp member with rfl | later
      · exact .inr (.inl lower)
      · exact .inr (.inr (ih later first))

/-- The lower case form of every character of a type name stands in the module name. -/
theorem mem_moduleName {c lowered : Char} {typeName : String} (member : c ∈ typeName.toList)
    (lower : lowered ∈ Text.lowercaseChar c) : lowered ∈ (moduleName typeName).toList := by
  unfold moduleName
  split
  · next none =>
      rw [none] at member
      cases member
  · next first rest spelled =>
      rw [spelled] at member
      rw [String.toList_ofList, List.mem_append]
      rcases List.mem_cons.mp member with rfl | later
      · exact .inl lower
      · exact .inr (mem_moduleNameAfter later lower first)

variable {f : Family} {d : Dimension} {name : String}

def Dimension.digit : Dimension → Char
  | one => '1'
  | two => '2'
  | three => '3'

theorem Dimension.digit_lower (d : Dimension) : d.digit ∈ Text.lowercaseChar d.digit := by
  cases d <;> decide

theorem slash_notMem_moduleName_of_typeName (slashless : '/' ∉ f.id.toList)
    (named : f.typeName d.number = .ok name) : '/' ∉ (moduleName name).toList := by
  refine notMem_moduleName (by decide) (by decide) fun member => ?_
  rcases Family.mem_typeName named member with inside | alphanumeric
  · exact slashless inside
  · cases alphanumeric

theorem digit_mem_moduleName (named : f.typeName d.number = .ok name) :
    d.digit ∈ (moduleName name).toList := by
  refine mem_moduleName ?_ d.digit_lower
  obtain ⟨word, -, spelled⟩ := Checked.bind_eq_ok_iff.mp named
  cases spelled
  have digit : d.digit ∈ (toString d.number).toList := by
    cases d <;> decide
  simp only [String.toList_append, List.mem_append]
  exact .inl (.inr digit)

end CurveForge
