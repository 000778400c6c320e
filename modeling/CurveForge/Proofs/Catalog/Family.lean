import Mathlib
import CurveForge.Catalog.Basic

/-!
# Well-formed families

The validation of a family accepts exactly the families whose matrix, names and
descriptions fit the degree and whose names differ.
-/

namespace CurveForge

theorem firstRepeated_eq_none_iff {seen names : List String} :
    firstRepeated seen names = none ↔ names.Nodup ∧ ∀ name ∈ names, name ∉ seen := by
  induction names generalizing seen with
  | nil => simp [firstRepeated]
  | cons name rest ih =>
      unfold firstRepeated
      by_cases repeated : name ∈ seen
      · simp [repeated]
      · rw [if_neg repeated, ih, List.nodup_cons]
        constructor
        · rintro ⟨nodup, fresh⟩
          refine ⟨⟨fun again => fresh name again List.mem_cons_self, nodup⟩, ?_⟩
          refine List.forall_mem_cons.mpr ⟨repeated, ?_⟩
          intro other member old
          exact fresh other member (List.mem_cons_of_mem _ old)
        · rintro ⟨⟨once, nodup⟩, fresh⟩
          refine ⟨nodup, ?_⟩
          intro other member old
          rcases List.mem_cons.mp old with rfl | old
          · exact once member
          · exact fresh other (List.mem_cons_of_mem _ member) old

namespace Family

structure WellFormed (f : Family) : Prop where
  degree_pos : 0 < f.degree
  matrix_size : f.matrix.size = f.degree + 1
  name_count : f.pointNames.length = f.degree + 1
  description_count : f.pointDescriptions.length = f.degree + 1
  names_nodup : f.pointNames.Nodup

variable {f : Family}

theorem malformation?_eq_none_iff : f.malformation? (f.degree + 1) = none ↔ f.WellFormed := by
  unfold malformation?
  constructor
  · intro accepted
    split at accepted
    · cases accepted
    next degree =>
    split at accepted
    · cases accepted
    next size =>
    split at accepted
    · cases accepted
    next names =>
    split at accepted
    · cases accepted
    next descriptions =>
    rw [Option.map_eq_none_iff, firstRepeated_eq_none_iff] at accepted
    exact ⟨Nat.pos_of_ne_zero degree, not_not.mp size, not_not.mp names, not_not.mp descriptions,
      accepted.1⟩
  · intro fits
    rw [if_neg fits.degree_pos.ne', if_neg (not_not.mpr fits.matrix_size),
      if_neg (not_not.mpr fits.name_count), if_neg (not_not.mpr fits.description_count),
      firstRepeated_eq_none_iff.mpr ⟨fits.names_nodup, fun _ _ => List.not_mem_nil⟩]
    rfl

theorem exists_malformation (malformed : ¬f.WellFormed) :
    ∃ reason, f.malformation? (f.degree + 1) = some reason :=
  Option.ne_none_iff_exists'.mp fun none => malformed (malformation?_eq_none_iff.mp none)

/-- The validation answers the first malformation, if there is one. -/
theorem validate_of_bounded (bounded : f.degree + 1 < Word.limit) :
    f.validate.run = .ok (match f.malformation? (f.degree + 1) with
      | some reason => .error (.malformedDescriptor f.typeStem reason)
      | none => .ok ()) := by
  have points : f.pointCount = .ok (f.degree + 1) := if_pos bounded
  unfold validate
  rw [points]
  change ((match f.malformation? (f.degree + 1) with
    | some reason => throw (.malformedDescriptor f.typeStem reason)
    | none => pure () : Generation Unit).run) = _
  cases f.malformation? (f.degree + 1) <;> rfl

theorem validate_of_unbounded (unbounded : ¬f.degree + 1 < Word.limit) :
    f.validate.run = .error .addOverflow := by
  have points : f.pointCount = .error .addOverflow := if_neg unbounded
  unfold validate
  rw [points]
  rfl

/-- Exactly the well-formed families are accepted. -/
theorem validate_eq_pure_iff :
    f.validate = pure () ↔ f.degree + 1 < Word.limit ∧ f.WellFormed := by
  by_cases bounded : f.degree + 1 < Word.limit
  · rw [← malformation?_eq_none_iff]
    have answer := validate_of_bounded bounded
    cases reason : f.malformation? (f.degree + 1) with
    | none =>
        rw [reason] at answer
        exact iff_of_true answer ⟨bounded, rfl⟩
    | some reason' =>
        rw [reason] at answer
        refine iff_of_false ?_ fun both => nomatch both.2
        intro accepted
        cases answer.symm.trans accepted
  · refine iff_of_false ?_ fun both => bounded both.1
    intro accepted
    cases (validate_of_unbounded bounded).symm.trans accepted

theorem WellFormed.of_validate (accepted : f.validate = pure ()) : f.WellFormed :=
  (validate_eq_pure_iff.mp accepted).2

theorem check_of_valid (accepted : f.validate = pure ()) : f.check = pure ⟨f, accepted⟩ := by
  unfold check
  split
  next => rfl
  next reason failed => cases failed.symm.trans accepted
  next fault failed => cases failed.symm.trans accepted

theorem check_of_malformation {reason : Malformation} (bounded : f.degree + 1 < Word.limit)
    (found : f.malformation? (f.degree + 1) = some reason) :
    f.check.run = .ok (.error (.malformedDescriptor f.typeStem reason)) := by
  have answer := validate_of_bounded bounded
  rw [found] at answer
  unfold check
  split
  next passed => cases answer.symm.trans passed
  next other failed =>
    cases answer.symm.trans failed
    rfl
  next fault failed => cases answer.symm.trans failed

theorem check_of_malformed (bounded : f.degree + 1 < Word.limit) (malformed : ¬f.WellFormed) :
    ∃ reason, f.check.run = .ok (.error (.malformedDescriptor f.typeStem reason)) := by
  obtain ⟨reason, found⟩ := exists_malformation malformed
  exact ⟨reason, check_of_malformation bounded found⟩

theorem check_of_unbounded (unbounded : ¬f.degree + 1 < Word.limit) :
    f.check.run = .error .addOverflow := by
  have failed := validate_of_unbounded unbounded
  unfold check
  split
  next passed => cases failed.symm.trans passed
  next reason refused => cases failed.symm.trans refused
  next fault other =>
    cases failed.symm.trans other
    rfl

theorem family_of_check {valid : ValidFamily} (checked : f.check.run = .ok (.ok valid)) :
    valid.family = f := by
  unfold check at checked
  split at checked
  next => cases checked; rfl
  next => cases checked
  next => cases checked

theorem validate_of_check {valid : ValidFamily} (checked : f.check.run = .ok (.ok valid)) :
    f.validate = pure () := by
  have same := family_of_check checked
  exact same ▸ valid.valid

end Family

end CurveForge
