import Mathlib
import CurveForge.Catalog.Standard
import CurveForge.Proofs.Catalog.Family
import CurveForge.Proofs.Generation

/-!
# Catalogs of well-formed families

A catalog accepts the families whose parts fit their degree, and otherwise reports the
first family that does not, with the first part of it that does not fit. The number of
points is computed before anything is compared with it, so a degree that is the last
word ends the validation of all families instead.
-/

namespace CurveForge

/-- The reported name is the first one that stands behind an equal one. -/
theorem firstRepeated_eq_some_iff {seen names : List String} {name : String} :
    firstRepeated seen names = some name ↔ ∃ before after, names = before ++ name :: after ∧
      before.Nodup ∧ (∀ other ∈ before, other ∉ seen) ∧ (name ∈ before ∨ name ∈ seen) := by
  induction names generalizing seen with
  | nil => simp [firstRepeated]
  | cons first rest ih =>
      unfold firstRepeated
      by_cases repeated : first ∈ seen
      · rw [if_pos repeated]
        constructor
        · rintro ⟨⟩
          exact ⟨[], rest, rfl, List.nodup_nil, fun _ absent => absurd absent List.not_mem_nil,
            .inr repeated⟩
        · rintro ⟨before, after, spelled, -, fresh, -⟩
          cases before with
          | nil =>
              cases spelled
              rfl
          | cons other before =>
              cases spelled
              exact absurd repeated (fresh first List.mem_cons_self)
      · rw [if_neg repeated, ih]
        constructor
        · rintro ⟨before, after, rfl, nodup, fresh, again⟩
          refine ⟨first :: before, after, rfl, List.nodup_cons.mpr ⟨?_, nodup⟩, ?_, ?_⟩
          · exact fun member => fresh first member List.mem_cons_self
          · refine List.forall_mem_cons.mpr ⟨repeated, fun other member old => ?_⟩
            exact fresh other member (List.mem_cons_of_mem _ old)
          · simpa only [List.mem_cons, or_assoc, or_comm, or_left_comm] using again
        · rintro ⟨before, after, spelled, nodup, fresh, again⟩
          cases before with
          | nil =>
              cases spelled
              exact absurd (again.resolve_left List.not_mem_nil) repeated
          | cons other before =>
              cases spelled
              obtain ⟨once, nodup⟩ := List.nodup_cons.mp nodup
              refine ⟨before, after, rfl, nodup, ?_, ?_⟩
              · rintro other member old
                rcases List.mem_cons.mp old with rfl | old
                · exact once member
                · exact fresh other (List.mem_cons_of_mem _ member) old
              · simpa only [List.mem_cons, or_assoc, or_comm, or_left_comm] using again

namespace Family

/-- What is wrong with a family: the first of its parts that does not fit the degree. -/
inductive Misfit (f : Family) : Malformation → Prop where
  | degree (zero : f.degree = 0) : Misfit f .degreeNotPositive
  | size (positive : 0 < f.degree) (differs : f.matrix.size ≠ f.degree + 1) :
      Misfit f (.matrixSize f.matrix.size (f.degree + 1))
  | names (positive : 0 < f.degree) (size : f.matrix.size = f.degree + 1)
      (differs : f.pointNames.length ≠ f.degree + 1) :
      Misfit f (.nameCount (f.degree + 1) f.pointNames.length)
  | descriptions (positive : 0 < f.degree) (size : f.matrix.size = f.degree + 1)
      (names : f.pointNames.length = f.degree + 1)
      (differs : f.pointDescriptions.length ≠ f.degree + 1) :
      Misfit f (.descriptionCount (f.degree + 1) f.pointDescriptions.length)
  | repeated {before after : List String} {name : String} (positive : 0 < f.degree)
      (size : f.matrix.size = f.degree + 1) (names : f.pointNames.length = f.degree + 1)
      (descriptions : f.pointDescriptions.length = f.degree + 1)
      (spelled : f.pointNames = before ++ name :: after) (distinct : before.Nodup)
      (again : name ∈ before) : Misfit f (.duplicateName name)

variable {f : Family} {reason : Malformation}

theorem misfit_of_malformation? (found : f.malformation? (f.degree + 1) = some reason) :
    f.Misfit reason := by
  unfold malformation? at found
  split at found
  next zero =>
    cases found
    exact .degree zero
  next positive =>
  replace positive := Nat.pos_of_ne_zero positive
  split at found
  next differs =>
    cases found
    exact .size positive differs
  next size =>
  replace size := not_not.mp size
  split at found
  next differs =>
    cases found
    exact .names positive size differs
  next names =>
  replace names := not_not.mp names
  split at found
  next differs =>
    cases found
    exact .descriptions positive size names differs
  next descriptions =>
  obtain ⟨name, repeated, rfl⟩ := Option.map_eq_some_iff.mp found
  obtain ⟨before, after, spelled, distinct, -, again⟩ := firstRepeated_eq_some_iff.mp repeated
  exact .repeated positive size names (not_not.mp descriptions) spelled distinct
    (again.resolve_right List.not_mem_nil)

/-- A family that is not well formed is refused for its first misfit. -/
theorem check_of_not_wellFormed (bounded : f.degree + 1 < Word.limit) (malformed : ¬f.WellFormed) :
    ∃ reason, f.Misfit reason ∧
      f.check.run = .ok (.error (.malformedDescriptor f.typeStem reason)) := by
  obtain ⟨reason, found⟩ := exists_malformation malformed
  exact ⟨reason, misfit_of_malformation? found, check_of_malformation bounded found⟩

instance (f : Family) : Decidable f.WellFormed :=
  decidable_of_iff (f.malformation? (f.degree + 1) = none) malformation?_eq_none_iff

end Family

namespace Catalog

/-- The families that are looked at: all up to the first that is not well formed. -/
def examined : List Family → List Family
  | [] => []
  | f :: rest => if f.WellFormed then f :: examined rest else [f]

variable {families passed rest : List Family} {f : Family}

theorem examined_of_wellFormed (fits : f.WellFormed) :
    examined (f :: families) = f :: examined families := if_pos fits

theorem examined_of_not_wellFormed (malformed : ¬f.WellFormed) :
    examined (f :: families) = [f] := if_neg malformed

theorem examined_eq_self (fits : ∀ f ∈ families, f.WellFormed) : examined families = families := by
  induction families with
  | nil => rfl
  | cons f families ih =>
      obtain ⟨here, later⟩ := List.forall_mem_cons.mp fits
      rw [examined_of_wellFormed here, ih later]

theorem examined_append (fits : ∀ g ∈ passed, g.WellFormed) :
    examined (passed ++ rest) = passed ++ examined rest := by
  induction passed with
  | nil => rfl
  | cons g passed ih =>
      obtain ⟨here, later⟩ := List.forall_mem_cons.mp fits
      rw [List.cons_append, examined_of_wellFormed here, ih later, List.cons_append]

/-- Which families are accepted, and what is reported of others. -/
structure Decides (families : List Family) (answer : Except GenerationError Catalog) : Prop where
  accepts : (∃ catalog, answer = .ok catalog) ↔ ∀ f ∈ families, f.WellFormed
  keeps : ∀ catalog, answer = .ok catalog → catalog.families = families
  reports : ∀ passed f rest, families = passed ++ f :: rest → (∀ g ∈ passed, g.WellFormed) →
    ¬f.WellFormed → ∃ reason, f.Misfit reason ∧
      answer = .error (.malformedDescriptor f.typeStem reason)

theorem mapM_check_of_wellFormed
    (fits : ∀ f ∈ families, f.degree + 1 < Word.limit ∧ f.WellFormed) :
    ∃ entries, (families.mapM Family.check).run = .ok (.ok entries) ∧
      entries.map ValidFamily.family = families := by
  induction families with
  | nil => exact ⟨[], rfl, rfl⟩
  | cons f families ih =>
      obtain ⟨here, later⟩ := List.forall_mem_cons.mp fits
      obtain ⟨entries, checked, same⟩ := ih later
      have accepted := Family.validate_eq_pure_iff.mpr here
      refine ⟨⟨f, accepted⟩ :: entries, ?_, by rw [List.map_cons, same]⟩
      rw [List.mapM_cons, Family.check_of_valid accepted, pure_bind,
        Generation.run_bind_of_value checked]
      rfl

/-- Families that fit are passed over on the way to the first one that is refused. -/
theorem mapM_check_of_first {reason : GenerationError}
    (fits : ∀ g ∈ passed, g.degree + 1 < Word.limit ∧ g.WellFormed)
    (refused : f.check.run = .ok (.error reason)) :
    ((passed ++ f :: rest).mapM Family.check).run = .ok (.error reason) := by
  induction passed with
  | nil => rw [List.nil_append, List.mapM_cons, Generation.run_bind_of_reason refused]
  | cons g passed ih =>
      obtain ⟨here, later⟩ := List.forall_mem_cons.mp fits
      rw [List.cons_append, List.mapM_cons,
        Family.check_of_valid (Family.validate_eq_pure_iff.mpr here), pure_bind,
        Generation.run_bind_of_reason (ih later)]

/-- A degree that is the last word stops the validation when it is reached. -/
theorem mapM_check_of_unbounded (reached : ∃ f ∈ examined families, ¬f.degree + 1 < Word.limit) :
    (families.mapM Family.check).run = .error .addOverflow := by
  obtain ⟨f, member, unbounded⟩ := reached
  induction families with
  | nil => cases member
  | cons g families ih =>
      rw [List.mapM_cons]
      by_cases bounded : g.degree + 1 < Word.limit
      · have other : f ≠ g := fun same => unbounded (same ▸ bounded)
        by_cases fits : g.WellFormed
        · rw [examined_of_wellFormed fits] at member
          rw [Family.check_of_valid (Family.validate_eq_pure_iff.mpr ⟨bounded, fits⟩), pure_bind,
            Generation.run_bind_of_fault (ih (List.mem_of_ne_of_mem other member))]
        · rw [examined_of_not_wellFormed fits] at member
          exact absurd (List.mem_singleton.mp member) other
      · exact Generation.run_bind_of_fault (Family.check_of_unbounded bounded)

theorem ofFamilies_of_first {reason : GenerationError}
    (fits : ∀ g ∈ passed, g.degree + 1 < Word.limit ∧ g.WellFormed)
    (refused : f.check.run = .ok (.error reason)) :
    (ofFamilies (passed ++ f :: rest)).run = .ok (.error reason) :=
  Generation.run_bind_of_reason (mapM_check_of_first fits refused)

/-- Where the first misfit stands, the families in front of it fit and all of them are examined. -/
theorem reported_of_first (bounded : ∀ f ∈ examined families, f.degree + 1 < Word.limit)
    (split : families = passed ++ f :: rest) (fits : ∀ g ∈ passed, g.WellFormed)
    (malformed : ¬f.WellFormed) :
    ∃ reason, f.Misfit reason ∧
      (ofFamilies families).run = .ok (.error (.malformedDescriptor f.typeStem reason)) := by
  subst split
  rw [examined_append fits, examined_of_not_wellFormed malformed] at bounded
  obtain ⟨reason, misfit, refused⟩ := Family.check_of_not_wellFormed
    (bounded f (List.mem_append_right _ List.mem_cons_self)) malformed
  refine ⟨reason, misfit, ofFamilies_of_first (fun g member => ?_) refused⟩
  exact ⟨bounded g (List.mem_append_left _ member), fits g member⟩

theorem decides_of_bounded (bounded : ∀ f ∈ examined families, f.degree + 1 < Word.limit) :
    ∃ answer, (ofFamilies families).run = .ok answer ∧ Decides families answer := by
  by_cases fits : ∀ f ∈ families, f.WellFormed
  · rw [examined_eq_self fits] at bounded
    obtain ⟨entries, checked, same⟩ :=
      mapM_check_of_wellFormed fun f member => ⟨bounded f member, fits f member⟩
    refine ⟨.ok ⟨entries⟩, Generation.run_bind_of_value checked, ?_, ?_, ?_⟩
    · exact iff_of_true ⟨_, rfl⟩ fits
    · rintro _ ⟨⟩
      exact same
    · rintro passed f rest rfl - malformed
      exact absurd (fits f (List.mem_append_right _ List.mem_cons_self)) malformed
  · -- The first family that does not fit decides the answer, and every split at a first one is there.
    obtain ⟨f, found⟩ : ∃ f, families.find? (fun f => !decide f.WellFormed) = some f := by
      rw [← Option.ne_none_iff_exists', Ne, List.find?_eq_none]
      simpa using fits
    obtain ⟨malformed, passed, rest, split, before⟩ := List.find?_eq_some_iff_append.mp found
    obtain ⟨reason, -, refused⟩ :=
      reported_of_first bounded split (by simpa using before) (by simpa using malformed)
    refine ⟨_, refused, ?_, ?_, ?_⟩
    · refine iff_of_false ?_ fits
      rintro ⟨catalog, ⟨⟩⟩
    · rintro catalog ⟨⟩
    · intro passed f rest split fits malformed
      obtain ⟨reason, misfit, answer⟩ := reported_of_first bounded split fits malformed
      exact ⟨reason, misfit, Except.ok.inj (refused.symm.trans answer)⟩

/-- A list of families is answered by the catalog of all of them or by what is wrong with the first
that is not well formed, unless the degree of a family that is looked at is the last word: then the
validation stops without an answer. -/
theorem ofFamilies_decides_iff (families : List Family) :
    ((∃ answer, (ofFamilies families).run = .ok answer ∧ Decides families answer) ↔
      ∀ f ∈ examined families, f.degree + 1 < Word.limit) ∧
    ((∃ f ∈ examined families, ¬f.degree + 1 < Word.limit) →
      (ofFamilies families).run = .error .addOverflow) := by
  have stops (reached : ∃ f ∈ examined families, ¬f.degree + 1 < Word.limit) :
      (ofFamilies families).run = .error .addOverflow :=
    Generation.run_bind_of_fault (mapM_check_of_unbounded reached)
  refine ⟨⟨?_, decides_of_bounded⟩, stops⟩
  rintro ⟨answer, answered, -⟩
  by_contra reached
  push Not at reached
  obtain ⟨f, member, unbounded⟩ := reached
  cases answered.symm.trans (stops ⟨f, member, not_lt.mpr unbounded⟩)

def endless : Family := { bezierQuadratic with degree := Word.limit - 1 }

/-- The matrix of this family is too small for its degree, which its validation does not come to
say. -/
theorem ofFamilies_stops_at_last_word :
    endless.degree < Word.limit ∧ endless.Misfit (.matrixSize 3 (2 ^ 64)) ∧
      examined [endless] = [endless] ∧ (ofFamilies [endless]).run = .error .addOverflow ∧
      ¬∃ answer, (ofFamilies [endless]).run = .ok answer ∧ Decides [endless] answer := by
  have misfit : endless.Misfit (.matrixSize 3 (2 ^ 64)) := .size (by decide) (by decide)
  have malformed : ¬endless.WellFormed := fun fits => absurd fits.matrix_size (by decide)
  have stops : (ofFamilies [endless]).run = .error .addOverflow :=
    Generation.run_bind_of_fault (mapM_check_of_unbounded ⟨endless, by
      rw [examined_of_not_wellFormed malformed]
      exact List.mem_cons_self, by decide⟩)
  refine ⟨by decide, misfit, examined_of_not_wellFormed malformed, stops, ?_⟩
  rintro ⟨answer, answered, -⟩
  cases stops.symm.trans answered

end Catalog

end CurveForge
