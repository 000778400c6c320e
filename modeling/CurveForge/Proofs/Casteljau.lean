import Mathlib
import CurveForge.Segment

/-!
# Entries of the triangle

Entry `i` of row `k` of a triangle is a blend of the entries `i` and `i + 1` of the
row below. The edges of the triangle are its first entries downwards and its last
entries upwards.
-/

namespace CurveForge.Casteljau

variable {α β : Type} {blend : α → α → α} {points : Nat → α}

def entry (blend : α → α → α) (points : Nat → α) : Nat → Nat → α
  | 0, i => points i
  | k + 1, i => blend (entry blend points k i) (entry blend points k (i + 1))

theorem entry_shift (k i : Nat) :
    entry blend (entry blend points 1) k i = entry blend points (k + 1) i := by
  induction k generalizing i with
  | zero => rfl
  | succ k ih =>
      rw [entry, ih, ih]
      rfl

/-- A map that respects the blends maps entries to entries. -/
theorem entry_map {other : β → β → β} (f : α → β)
    (respects : ∀ a b, f (blend a b) = other (f a) (f b)) (k i : Nat) :
    f (entry blend points k i) = entry other (f ∘ points) k i := by
  induction k generalizing i with
  | zero => rfl
  | succ k ih => rw [entry, respects, ih, ih, entry]

/-- The points of a row as the values of a function. -/
theorem exists_map_range {row : List α} {n : Nat} (size : row.length = n + 1) :
    ∃ points : Nat → α, row = (List.range (n + 1)).map points := by
  obtain ⟨first, rest, rfl⟩ := List.exists_cons_of_length_eq_add_one size
  refine ⟨fun i => (first :: rest).getD i first, ?_⟩
  apply List.ext_getElem (by simp [size])
  intro i bound _
  rw [List.getElem_map, List.getElem_range, List.getD_eq_getElem _ _ bound]

theorem neighbours_map_range (f : Nat → α) (n : Nat) :
    neighbours ((List.range (n + 1)).map f) = (List.range n).map fun i => (f i, f (i + 1)) := by
  apply List.ext_getElem (by simp [neighbours])
  intro i _ _
  simp [neighbours]

/-- The induction is on the number of rows; the rows above the first are those of its blends. -/
theorem rowsFrom_map_range (points : Nat → α) (n : Nat) :
    rowsFrom blend n ((List.range (n + 1)).map points) =
      (List.range (n + 1)).map fun k =>
        (List.range (n + 1 - k)).map (entry blend points k) := by
  induction n generalizing points with
  | zero => rfl
  | succ n ih =>
      have above : ((neighbours ((List.range (n + 2)).map points)).map fun pair =>
          blend pair.1 pair.2) = (List.range (n + 1)).map (entry blend points 1) := by
        rw [neighbours_map_range, List.map_map]
        rfl
      have first : ((List.range (n + 2)).map fun k =>
          (List.range (n + 2 - k)).map (entry blend points k)) =
          (List.range (n + 2)).map points :: (List.range (n + 1)).map fun k =>
            (List.range (n + 2 - (k + 1))).map (entry blend points (k + 1)) := by
        conv_lhs => rw [List.range_succ_eq_map, List.map_cons, List.map_map]
        rfl
      rw [rowsFrom, above, ih, first]
      refine congrArg (List.cons _) (List.map_congr_left ?_)
      intro k _
      rw [show n + 2 - (k + 1) = n + 1 - k by omega]
      exact List.map_congr_left fun i _ => entry_shift k i

theorem triangle_map_range (points : Nat → α) (n : Nat) :
    triangle blend ((List.range (n + 1)).map points) =
      (List.range (n + 1)).map fun k => (List.range (n + 1 - k)).map (entry blend points k) := by
  rw [triangle, List.length_map, List.length_range, Nat.add_sub_cancel, rowsFrom_map_range]

/-- The edges of a triangle are its entries at both ends of every row. -/
theorem edges_triangle (points : Nat → α) (n : Nat) :
    edges (triangle blend ((List.range (n + 1)).map points)) =
      ((List.range (n + 1)).map fun k => entry blend points k 0,
        (List.range (n + 1)).map fun k => entry blend points (n - k) k) := by
  have heads : ∀ k ∈ List.range (n + 1),
      ((List.range (n + 1 - k)).map (entry blend points k)).head? =
        some (entry blend points k 0) := by
    intro k member
    obtain ⟨rest, count⟩ := Nat.exists_eq_add_of_lt (List.mem_range.mp member)
    have positive : n + 1 - k = rest + 1 := by omega
    rw [positive, List.range_succ_eq_map]
    rfl
  have lasts : ∀ k ∈ List.range (n + 1),
      ((List.range (n + 1 - k)).map (entry blend points k)).getLast? =
        some (entry blend points k (n - k)) := by
    intro k member
    have positive : n + 1 - k = (n - k) + 1 := by
      have := List.mem_range.mp member
      omega
    rw [positive, List.range_succ, List.map_append, List.map_singleton, List.getLast?_concat]
  rw [triangle_map_range, edges, List.filterMap_map, List.filterMap_map]
  refine Prod.ext ?_ ?_
  · exact (List.filterMap_congr heads).trans (congrFun List.filterMap_eq_map' _)
  · have upwards := (List.filterMap_congr lasts).trans (congrFun List.filterMap_eq_map' _)
    refine (congrArg List.reverse upwards).trans ?_
    apply List.ext_getElem (by simp)
    intro k bound _
    have inside : k < n + 1 := by simpa using bound
    have opposite : n - (n - k) = k := by omega
    simp [opposite]

end CurveForge.Casteljau
