import Mathlib
import CurveForge.Generation
import CurveForge.Proofs.Checked

/-!
# Answers of generation

A generation answers a value or an error, unless a fault keeps it from answering.
The first error or fault of a sequence is the one of the whole sequence.
-/

namespace CurveForge.Generation

variable {α β : Type} {x : Generation α} {next : α → Generation β}

theorem run_bind_of_value {value : α} (answer : x.run = .ok (.ok value)) :
    (x >>= next).run = (next value).run := by
  rw [ExceptT.run_bind, answer]
  rfl

theorem run_bind_of_reason {reason : GenerationError} (answer : x.run = .ok (.error reason)) :
    (x >>= next).run = .ok (.error reason) := by
  rw [ExceptT.run_bind, answer]
  rfl

theorem run_bind_of_fault {fault : Fault} (failed : x.run = .error fault) :
    (x >>= next).run = .error fault := by
  rw [ExceptT.run_bind, failed]
  rfl

theorem answer_bind (value : α) (next : α → Generation β) :
    (liftM (Except.ok value : Except GenerationError α) : Generation α) >>= next = next value := rfl

theorem run_refuse_bind (reason : GenerationError) (next : α → Generation β) :
    ((liftM (Except.error reason : Except GenerationError α) : Generation α) >>= next).run =
      .ok (.error reason) := rfl

theorem compute_bind (value : α) (next : α → Generation β) :
    (liftM (Except.ok value : Checked α) : Generation α) >>= next = next value := rfl

theorem run_fail_bind (fault : Fault) (next : α → Generation β) :
    ((liftM (Except.error fault : Checked α) : Generation α) >>= next).run = .error fault := rfl

theorem exists_value_of_isSome (answered : (x.run.toOption.bind Except.toOption).isSome = true) :
    ∃ value, x.run = .ok (.ok value) := by
  cases answer : x.run with
  | error fault =>
      rw [answer] at answered
      cases answered
  | ok verdict =>
      cases verdict with
      | error reason =>
          rw [answer] at answered
          cases answered
      | ok value => exact ⟨value, rfl⟩

theorem run_bind_eq_value_iff {result : β} :
    (x >>= next).run = .ok (.ok result) ↔
      ∃ value, x.run = .ok (.ok value) ∧ (next value).run = .ok (.ok result) := by
  cases answer : x.run with
  | error fault => simp [run_bind_of_fault answer]
  | ok verdict =>
      cases verdict with
      | error reason => simp [run_bind_of_reason answer]
      | ok value => simp [run_bind_of_value answer]

theorem run_answer_bind_eq_value_iff {answer : Except GenerationError α} {result : β} :
    ((liftM answer : Generation α) >>= next).run = .ok (.ok result) ↔
      ∃ value, answer = .ok value ∧ (next value).run = .ok (.ok result) := by
  cases answer with
  | error reason =>
      rw [run_refuse_bind]
      simp
  | ok value => simp [answer_bind]

theorem run_compute_bind_eq_value_iff {computed : Checked α} {result : β} :
    ((liftM computed : Generation α) >>= next).run = .ok (.ok result) ↔
      ∃ value, computed = .ok value ∧ (next value).run = .ok (.ok result) := by
  cases computed with
  | error fault =>
      rw [run_fail_bind]
      simp
  | ok value => simp [compute_bind]

/-- A list of generations answers the list of the values of all entries. -/
theorem run_mapM_eq_value_iff {f : α → Generation β} {entries : List α} {results : List β} :
    (entries.mapM f).run = .ok (.ok results) ↔
      List.Forall₂ (fun entry result => (f entry).run = .ok (.ok result)) entries results := by
  induction entries generalizing results with
  | nil =>
      rw [List.mapM_nil, List.forall₂_nil_left_iff]
      exact ⟨fun same => (Except.ok.inj (Except.ok.inj same)).symm, fun same => same ▸ rfl⟩
  | cons entry rest ih =>
      rw [List.mapM_cons, run_bind_eq_value_iff]
      constructor
      · rintro ⟨value, entryResult, restResult⟩
        obtain ⟨values, valuesResult, done⟩ := run_bind_eq_value_iff.mp restResult
        cases done
        exact .cons entryResult (ih.mp valuesResult)
      · intro related
        cases related with
        | cons entryResult restResult =>
            exact ⟨_, entryResult, run_bind_eq_value_iff.mpr ⟨_, ih.mpr restResult, rfl⟩⟩

/-- A checked computation whose result is answered after a last step. -/
theorem run_compute_bind_pure_iff {computed : Checked α} {f : α → β} {result : β} :
    ((liftM computed : Generation α) >>= fun value => pure (f value)).run = .ok (.ok result) ↔
      ∃ value, computed = .ok value ∧ f value = result := by
  rw [run_compute_bind_eq_value_iff]
  refine exists_congr fun value => and_congr_right fun _ => ?_
  exact ⟨fun same => Except.ok.inj (Except.ok.inj same), fun same => same ▸ rfl⟩

theorem run_bind_eq_reason_iff {reason : GenerationError} :
    (x >>= next).run = .ok (.error reason) ↔
      x.run = .ok (.error reason) ∨
        ∃ value, x.run = .ok (.ok value) ∧ (next value).run = .ok (.error reason) := by
  cases answer : x.run with
  | error fault => simp [run_bind_of_fault answer]
  | ok verdict =>
      cases verdict with
      | error other => simp [run_bind_of_reason answer]
      | ok value => simp [run_bind_of_value answer]

theorem run_answer_bind_eq_reason_iff {answer : Except GenerationError α}
    {reason : GenerationError} :
    ((liftM answer : Generation α) >>= next).run = .ok (.error reason) ↔
      answer = .error reason ∨
        ∃ value, answer = .ok value ∧ (next value).run = .ok (.error reason) := by
  cases answer with
  | error other =>
      rw [run_refuse_bind]
      simp
  | ok value => simp [answer_bind]

theorem run_compute_bind_eq_reason_iff {computed : Checked α} {reason : GenerationError} :
    ((liftM computed : Generation α) >>= next).run = .ok (.error reason) ↔
      ∃ value, computed = .ok value ∧ (next value).run = .ok (.error reason) := by
  cases computed with
  | error fault =>
      rw [run_fail_bind]
      simp
  | ok value => simp [compute_bind]

/-- The error of a list of generations is the error of one of them. -/
theorem run_mapM_eq_reason {f : α → Generation β} {entries : List α} {reason : GenerationError}
    (refused : (entries.mapM f).run = .ok (.error reason)) :
    ∃ entry ∈ entries, (f entry).run = .ok (.error reason) := by
  induction entries with
  | nil => cases refused
  | cons entry rest ih =>
      rw [List.mapM_cons, run_bind_eq_reason_iff] at refused
      rcases refused with here | ⟨value, -, later⟩
      · exact ⟨entry, List.mem_cons_self, here⟩
      · rcases run_bind_eq_reason_iff.mp later with there | ⟨values, -, done⟩
        · obtain ⟨found, member, reasoned⟩ := ih there
          exact ⟨found, List.mem_cons_of_mem _ member, reasoned⟩
        · cases done

end CurveForge.Generation
