import Mathlib
import CurveForge.Checked

/-!
# Results of checked computations

A computation ends in a value with some property or in one of some faults. Fraction
arithmetic may end in a fault because a result is no word: a computation yields a
property when no other kind of fault can end it, and it returns one when nothing is
said of its faults. Such statements compose along sequences, lists, loops and vectors.
-/

namespace CurveForge

/-- The faults of results that are no words. -/
def Fault.IsOverflow (fault : Fault) : Prop :=
  fault = .numeratorOverflow ∨ fault = .denominatorOverflow ∨ fault = .negateOverflow

/-- The faults of fraction arithmetic: besides results that are no words, sums that are too wide. -/
def Fault.IsArithmetic (fault : Fault) : Prop := fault.IsOverflow ∨ fault = .addOverflow

theorem exists_of_forall₂_of_mem {α β : Type} {relation : α → β → Prop} {entries : List α}
    {results : List β} (related : List.Forall₂ relation entries results) {result : β}
    (member : result ∈ results) : ∃ entry ∈ entries, relation entry result := by
  induction related with
  | nil => cases member
  | @cons entry first _ _ here _ ih =>
      rcases List.mem_cons.mp member with rfl | later
      · exact ⟨entry, List.mem_cons_self, here⟩
      · obtain ⟨found, listed, there⟩ := ih later
        exact ⟨found, List.mem_cons_of_mem _ listed, there⟩

/-- Lists of related entries have the same images under functions that agree on related entries. -/
theorem map_eq_map_of_forall₂ {α β γ : Type} {f : α → γ} {g : β → γ} {entries : List α}
    {results : List β} (related : List.Forall₂ (fun a b => f a = g b) entries results) :
    entries.map f = results.map g := by
  rwa [← List.forall₂_eq_eq_eq, List.forall₂_map_left_iff, List.forall₂_map_right_iff]

namespace Checked

variable {ε α β : Type}

theorem bind_eq_ok_iff {x : Except ε α} {next : α → Except ε β} {result : β} :
    (x >>= next) = .ok result ↔ ∃ value, x = .ok value ∧ next value = .ok result := by
  cases x with
  | error fault => simp [bind, Except.bind]
  | ok value => simp [bind, Except.bind]

theorem exists_ok_of_isSome {x : Except ε α} (answers : x.toOption.isSome = true) :
    ∃ value, x = .ok value := by
  cases x with
  | error fault => cases answers
  | ok value => exact ⟨value, rfl⟩

theorem exists_of_any {x : Except ε α} {test : α → Bool} (passes : x.toOption.any test = true) :
    ∃ value, x = .ok value ∧ test value = true := by
  cases x with
  | error fault => cases passes
  | ok value => exact ⟨value, rfl, passes⟩

/-- A list of results is the list of the values of all entries. -/
theorem mapM_eq_ok_iff {f : α → Except ε β} {entries : List α} {results : List β} :
    entries.mapM f = .ok results ↔
      List.Forall₂ (fun entry result => f entry = .ok result) entries results := by
  induction entries generalizing results with
  | nil => cases results <;> simp [pure, Except.pure]
  | cons entry rest ih =>
      rw [List.mapM_cons, bind_eq_ok_iff]
      constructor
      · rintro ⟨value, entryResult, restResult⟩
        obtain ⟨values, valuesResult, done⟩ := bind_eq_ok_iff.mp restResult
        cases done
        exact .cons entryResult (ih.mp valuesResult)
      · intro related
        cases related with
        | cons entryResult restResult =>
            exact ⟨_, entryResult, bind_eq_ok_iff.mpr ⟨_, ih.mpr restResult, rfl⟩⟩

/-- A fault of a list of computations is the fault of one of them. -/
theorem mapM_eq_error {f : α → Except ε β} {entries : List α} {fault : ε}
    (failed : entries.mapM f = .error fault) : ∃ entry ∈ entries, f entry = .error fault := by
  induction entries with
  | nil => cases failed
  | cons entry rest ih =>
      rw [List.mapM_cons] at failed
      cases first : f entry with
      | error other =>
          rw [first] at failed
          cases failed
          exact ⟨entry, List.mem_cons_self, first⟩
      | ok value =>
          rw [first] at failed
          cases others : rest.mapM f with
          | error other =>
              simp only [bind, Except.bind, others] at failed
              cases failed
              obtain ⟨found, member, reason⟩ := ih others
              exact ⟨found, List.mem_cons_of_mem _ member, reason⟩
          | ok values =>
              simp only [bind, Except.bind, others] at failed
              cases failed

/-- If every entry has a result with a property, so has the list. -/
theorem mapM_ok {f : α → Except ε β} {relation : α → β → Prop} {entries : List α}
    (each : ∀ entry ∈ entries, ∃ result, f entry = .ok result ∧ relation entry result) :
    ∃ results, entries.mapM f = .ok results ∧ List.Forall₂ relation entries results := by
  induction entries with
  | nil => exact ⟨[], rfl, .nil⟩
  | cons entry rest ih =>
      obtain ⟨⟨result, computed, related⟩, others⟩ := List.forall_mem_cons.mp each
      obtain ⟨results, restComputed, restRelated⟩ := ih others
      refine ⟨result :: results, ?_, .cons related restRelated⟩
      rw [List.mapM_cons]
      exact bind_eq_ok_iff.mpr
        ⟨result, computed, bind_eq_ok_iff.mpr ⟨results, restComputed, rfl⟩⟩

/-- If only one fault can happen and it happens somewhere, the list ends in it. -/
theorem mapM_eq_error_of_mem {f : α → Except ε β} {fault : ε} {entries : List α}
    (only : ∀ entry ∈ entries, ∀ other, f entry = .error other → other = fault)
    (failed : ∃ entry ∈ entries, f entry = .error fault) : entries.mapM f = .error fault := by
  cases result : entries.mapM f with
  | error other =>
      obtain ⟨entry, member, reason⟩ := mapM_eq_error result
      rw [only entry member other reason]
  | ok results =>
      obtain ⟨entry, member, reason⟩ := failed
      obtain ⟨i, bound, rfl⟩ := List.getElem_of_mem member
      have related := mapM_eq_ok_iff.mp result
      have value := related.get bound (related.length_eq ▸ bound)
      rw [List.get_eq_getElem, reason] at value
      cases value

/-- The computation ends in a value with the property or in one of the given faults. -/
def Ends (allowed : Fault → Prop) (x : Checked α) (property : α → Prop) : Prop :=
  match x with
  | .ok value => property value
  | .error fault => allowed fault

section Ends

variable {allowed : Fault → Prop} {x : Checked α} {property : α → Prop}

theorem Ends.of_eq_ok {value : α} (ends : Ends allowed x property) (result : x = .ok value) :
    property value := by
  rw [result] at ends
  exact ends

theorem Ends.of_eq_error {fault : Fault} (ends : Ends allowed x property)
    (result : x = .error fault) : allowed fault := by
  rw [result] at ends
  exact ends

theorem Ends.mono {weaker : α → Prop} (ends : Ends allowed x property)
    (weaken : ∀ value, property value → weaker value) : Ends allowed x weaker := by
  cases x with
  | error fault => exact ends
  | ok value => exact weaken value ends

theorem Ends.allow {wider : Fault → Prop} (ends : Ends allowed x property)
    (more : ∀ fault, allowed fault → wider fault) : Ends wider x property := by
  cases x with
  | error fault => exact more fault ends
  | ok value => exact ends

theorem Ends.bind {next : α → Checked β} {final : β → Prop} (ends : Ends allowed x property)
    (continues : ∀ value, property value → Ends allowed (next value) final) :
    Ends allowed (x >>= next) final := by
  cases x with
  | error fault => exact ends
  | ok value => exact continues value ends

theorem Ends.map {f : α → β} {final : β → Prop} (ends : Ends allowed x property)
    (image : ∀ value, property value → final (f value)) : Ends allowed (f <$> x) final := by
  cases x with
  | error fault => exact ends
  | ok value => exact image value ends

/-- A list of computations ends as each of them does. -/
theorem ends_mapM {f : α → Checked β} {relation : α → β → Prop} {entries : List α}
    (each : ∀ entry ∈ entries, Ends allowed (f entry) (relation entry)) :
    Ends allowed (entries.mapM f) (List.Forall₂ relation entries) := by
  induction entries with
  | nil => exact List.Forall₂.nil
  | cons entry rest ih =>
      obtain ⟨here, later⟩ := List.forall_mem_cons.mp each
      rw [List.mapM_cons]
      apply here.bind
      intro result related
      apply (ih later).bind
      intro results restRelated
      exact .cons related restRelated

/-- The invariant of a loop speaks of the state and of the entries that are left. -/
theorem ends_foldlM {σ : Type} {step : σ → α → Checked σ} {invariant : List α → σ → Prop}
    (keeps : ∀ entry rest state, invariant (entry :: rest) state →
      Ends allowed (step state entry) (invariant rest))
    {entries : List α} {state : σ} (start : invariant entries state) :
    Ends allowed (entries.foldlM step state) (invariant []) := by
  induction entries generalizing state with
  | nil => exact start
  | cons entry rest ih =>
      rw [List.foldlM_cons]
      exact (keeps entry rest state start).bind fun next holds => ih holds

/-- A vector of computations ends as each of them does. -/
theorem ends_ofFnM {n : Nat} {f : Fin n → Checked β} (relation : Fin n → β → Prop)
    (each : ∀ i, Ends allowed (f i) (relation i)) :
    Ends allowed (Vector.ofFnM f) fun results => ∀ i, relation i (results.get i) := by
  induction n with
  | zero =>
      rw [Vector.ofFnM_zero]
      exact fun i => i.elim0
  | succ n ih =>
      rw [Vector.ofFnM_succ]
      refine (ih _ fun i => each i.castSucc).bind ?_
      intro front frontHolds
      apply (each (Fin.last n)).bind
      intro last lastHolds i
      cases i using Fin.lastCases with
      | last => simpa [Vector.get_eq_getElem] using lastHolds
      | cast i => simpa [Vector.get_eq_getElem, Vector.getElem_push] using frontHolds i

end Ends

/-- The computation ends in a value with the property or with a result that is no word. -/
def Yields (x : Checked α) (property : α → Prop) : Prop :=
  match x with
  | .ok value => property value
  | .error fault => fault.IsOverflow

/-- If the computation ends in a value, that has the property. -/
def Returns (x : Checked α) (property : α → Prop) : Prop :=
  match x with
  | .ok value => property value
  | .error _ => True

section Yields

variable {x : Checked α} {property : α → Prop}

theorem Yields.of_eq_ok {value : α} (yields : Yields x property) (result : x = .ok value) :
    property value := Ends.of_eq_ok yields result

theorem Yields.of_eq_error {fault : Fault} (yields : Yields x property)
    (result : x = .error fault) : fault.IsOverflow := Ends.of_eq_error yields result

theorem Yields.mono {weaker : α → Prop} (yields : Yields x property)
    (weaken : ∀ value, property value → weaker value) : Yields x weaker :=
  Ends.mono yields weaken

theorem Yields.allow {wider : Fault → Prop} (yields : Yields x property)
    (more : ∀ fault, fault.IsOverflow → wider fault) : Ends wider x property :=
  Ends.allow yields more

theorem Yields.bind {next : α → Checked β} {final : β → Prop} (yields : Yields x property)
    (continues : ∀ value, property value → Yields (next value) final) :
    Yields (x >>= next) final := Ends.bind yields continues

theorem Yields.map {f : α → β} {final : β → Prop} (yields : Yields x property)
    (image : ∀ value, property value → final (f value)) : Yields (f <$> x) final :=
  Ends.map yields image

/-- A list of computations yields what each of them yields. -/
theorem yields_mapM {f : α → Checked β} {relation : α → β → Prop} {entries : List α}
    (each : ∀ entry ∈ entries, Yields (f entry) (relation entry)) :
    Yields (entries.mapM f) (List.Forall₂ relation entries) := ends_mapM each

end Yields

section Returns

variable {x : Checked α} {property : α → Prop}

theorem returns_iff : Returns x property ↔ ∀ value, x = .ok value → property value := by
  cases x with
  | error fault => simp [Returns]
  | ok value => simp [Returns]

theorem Returns.of_eq_ok {value : α} (returns : Returns x property) (result : x = .ok value) :
    property value := Ends.of_eq_ok returns result

theorem Returns.mono {weaker : α → Prop} (returns : Returns x property)
    (weaken : ∀ value, property value → weaker value) : Returns x weaker :=
  Ends.mono returns weaken

theorem Returns.bind {next : α → Checked β} {final : β → Prop} (returns : Returns x property)
    (continues : ∀ value, property value → Returns (next value) final) :
    Returns (x >>= next) final := Ends.bind returns continues

theorem Returns.map {f : α → β} {final : β → Prop} (returns : Returns x property)
    (image : ∀ value, property value → final (f value)) : Returns (f <$> x) final :=
  Ends.map returns image

theorem returns_mapM {f : α → Checked β} {relation : α → β → Prop} {entries : List α}
    (each : ∀ entry ∈ entries, Returns (f entry) (relation entry)) :
    Returns (entries.mapM f) (List.Forall₂ relation entries) := ends_mapM each

theorem returns_ofFnM {n : Nat} {f : Fin n → Checked β} (relation : Fin n → β → Prop)
    (each : ∀ i, Returns (f i) (relation i)) :
    Returns (Vector.ofFnM f) fun results => ∀ i, relation i (results.get i) :=
  ends_ofFnM relation each

theorem eq_ok_of_ofFnM {n : Nat} {f : Fin n → Checked β} {results : Vector β n}
    (computed : Vector.ofFnM f = .ok results) (i : Fin n) : f i = .ok (results.get i) := by
  have each (i : Fin n) : Returns (f i) fun value => f i = .ok value :=
    returns_iff.mpr fun _ result => result
  exact (returns_ofFnM _ each).of_eq_ok computed i

theorem Yields.returns (yields : Yields x property) : Returns x property :=
  yields.allow fun _ _ => trivial

end Returns

/-- What is known of the value of a computation holds in addition to how it ends. -/
theorem Ends.and_returns {allowed : Fault → Prop} {x : Checked α} {property other : α → Prop}
    (ends : Ends allowed x property) (returns : Returns x other) :
    Ends allowed x fun value => property value ∧ other value := by
  cases x with
  | error fault => exact ends
  | ok value => exact ⟨ends, returns⟩

end Checked

end CurveForge
