import Mathlib
import CurveForge.Proofs.SegmentShape

/-!
# Blending commutes with the geometry

For exact numbers, sums, multiples and weighted sums of points respect blends, and two
blends can be taken in either order. Evaluation, conversion and subdivision are made of
these, so it does not matter whether segments are blended before or after them.
-/

namespace CurveForge

namespace Point

variable {d : Nat} {ι : Type}

theorem get_lerp (t : ℚ) (p q : Point ℚ d) (i : Fin d) :
    (lerp t p q).get i = p.get i + (q.get i - p.get i) * t := by
  simp [lerp, Vector.get_eq_getElem]

theorem lerp_origin (t : ℚ) : lerp t origin (origin : Point ℚ d) = origin :=
  Checked.ext_get fun i => by
    rw [get_lerp, get_origin]
    ring

theorem lerp_add (t : ℚ) (p q x y : Point ℚ d) :
    lerp t (add p q) (add x y) = add (lerp t p x) (lerp t q y) :=
  Checked.ext_get fun i => by
    simp only [get_lerp, get_add]
    ring

theorem lerp_scale (t factor : ℚ) (p q : Point ℚ d) :
    lerp t (scale p factor) (scale q factor) = scale (lerp t p q) factor :=
  Checked.ext_get fun i => by
    simp only [get_lerp, get_scale]
    ring

/-- Blending along two parameters can be done in either order. -/
theorem lerp_lerp (s t : ℚ) (p q x y : Point ℚ d) :
    lerp t (lerp s p q) (lerp s x y) = lerp s (lerp t p x) (lerp t q y) :=
  Checked.ext_get fun i => by
    simp only [get_lerp]
    ring

theorem weightedSum_lerp (weights : List Fraction) (indices : List ι) (p q : ι → Point ℚ d) (t : ℚ) :
    weightedSum weights (indices.map fun i => lerp t (p i) (q i)) =
      lerp t (weightedSum weights (indices.map p)) (weightedSum weights (indices.map q)) := by
  simp only [weightedSum, List.zip_map_right, List.foldl_map, Prod.map]
  -- The sums so far are blended too, from the first one on.
  have whole := List.foldl_hom₂ (weights.zip indices) (lerp t)
    (fun sum pair => add sum (scale (p pair.2) (Scalar.ofFraction pair.1)))
    (fun sum pair => add sum (scale (q pair.2) (Scalar.ofFraction pair.1)))
    (fun sum pair => add sum (scale (lerp t (p pair.2) (q pair.2)) (Scalar.ofFraction pair.1)))
    origin origin fun x y pair => by rw [lerp_add, lerp_scale]
  rwa [lerp_origin] at whole

def horner (u : ℚ) (coefficients : List (Point ℚ d)) : Point ℚ d :=
  coefficients.foldl (fun sum c => (sum.scale u).add c) origin

theorem horner_lerp (u : ℚ) (indices : List ι) (p q : ι → Point ℚ d) (t : ℚ) :
    horner u (indices.map fun i => lerp t (p i) (q i)) =
      lerp t (horner u (indices.map p)) (horner u (indices.map q)) := by
  simp only [horner, List.foldl_map]
  have whole := List.foldl_hom₂ indices (lerp t) (fun sum i => (sum.scale u).add (p i))
    (fun sum i => (sum.scale u).add (q i))
    (fun sum i => (sum.scale u).add (lerp t (p i) (q i))) origin origin
    fun x y i => by rw [lerp_add, lerp_scale]
  rwa [lerp_origin] at whole

theorem entry_lerp (s t : ℚ) (p q : Nat → Point ℚ d) (k i : Nat) :
    Casteljau.entry (lerp s) (fun j => lerp t (p j) (q j)) k i =
      lerp t (Casteljau.entry (lerp s) p k i) (Casteljau.entry (lerp s) q k i) := by
  induction k generalizing i with
  | zero => rfl
  | succ k ih => rw [Casteljau.entry, ih, ih, ← lerp_lerp, Casteljau.entry, Casteljau.entry]

end Point

namespace Segment

variable {d : Nat} {a b : Segment ℚ d}

theorem lerp?_map {ι : Type} (f : Family) (indices : List ι) (p q : ι → Point ℚ d) (t : ℚ) :
    lerp? ⟨f, indices.map p⟩ ⟨f, indices.map q⟩ t =
      some ⟨f, indices.map fun i => Point.lerp t (p i) (q i)⟩ := by
  rw [lerp?, if_pos rfl, List.zip_map', List.map_map]
  rfl

theorem Shaped.sample_eq (shaped : a.Shaped) (u : ℚ) :
    a.sample u = .ok (Point.horner u
      (a.family.matrix.rows.reverse.map fun row => Point.weightedSum row a.points)) := by
  rw [sample, shaped.coefficients_eq, List.map_reverse]
  rfl

/-- Segments of one family have a blend. Evaluating it, converting it or taking its halves is the
same as blending what evaluation, conversion or subdivision make of the two segments. -/
theorem lerp?_commutes (left : a.Shaped) (right : b.Shaped) (same : b.family = a.family) (t : ℚ) :
    ∃ blend, lerp? a b t = some blend ∧
      (∀ u, ∃ p q, a.sample u = .ok p ∧ b.sample u = .ok q ∧
        blend.sample u = .ok (Point.lerp t p q)) ∧
      (∀ g converted, a.convertTo g = pure converted → ∃ other both,
        b.convertTo g = pure other ∧ lerp? converted other t = some both ∧
          blend.convertTo g = pure both) ∧
      (a.family.splittable = true → ∀ s, ∃ first second otherFirst otherSecond front back,
        a.split? s = .ok (some (first, second)) ∧ b.split? s = .ok (some (otherFirst, otherSecond)) ∧
          lerp? first otherFirst t = some front ∧ lerp? second otherSecond t = some back ∧
          blend.split? s = .ok (some (front, back))) := by
  obtain ⟨p, leftPoints⟩ := Casteljau.exists_map_range left.length_eq
  obtain ⟨q, rightPoints⟩ := Casteljau.exists_map_range right.length_eq
  obtain ⟨f, ps⟩ := a
  obtain ⟨g, qs⟩ := b
  dsimp only at same leftPoints rightPoints
  subst same leftPoints rightPoints
  have blended := lerp?_map g (List.range (g.degree + 1)) p q t
  have shaped := (left.blend right blended).1
  refine ⟨_, blended, ?_, ?_, ?_⟩
  · intro u
    refine ⟨_, _, left.sample_eq u, right.sample_eq u, ?_⟩
    simp only [shaped.sample_eq u, Point.weightedSum_lerp, Point.horner_lerp]
  · intro target converted result
    obtain ⟨matrix, conversion, rfl⟩ := (convertTo_eq_pure_iff left.matrix_room).mp result
    refine ⟨_, _, (convertTo_eq_pure_iff right.matrix_room).mpr ⟨matrix, conversion, rfl⟩,
      lerp?_map target matrix.rows _ _ t,
      (convertTo_eq_pure_iff shaped.matrix_room).mpr ⟨matrix, conversion, ?_⟩⟩
    simp only [Point.weightedSum_lerp]
  · intro splittable s
    refine ⟨_, _, _, _, _, _, split?_map_range splittable p _, split?_map_range splittable q _,
      lerp?_map g _ _ _ t, lerp?_map g _ _ _ t, ?_⟩
    simp only [split?_map_range splittable, Point.entry_lerp]

def arch : Segment ℚ 2 := ⟨Catalog.bezierCubic, [planar 0 0, planar 0 8, planar 8 8, planar 8 0]⟩

/-- A Hermite curve as a Bézier curve and an arch meet halfway. -/
theorem lerp?_commutes_arch :
    convertedHermite.Shaped ∧ arch.Shaped ∧ ∃ blend, lerp? convertedHermite arch (1 / 2) = some blend ∧
      blend.sample (1 / 2) = .ok (planar (39 / 16) (47 / 16)) ∧
      (∃ other both, arch.convertTo Catalog.hermite = pure other ∧
        lerp? hermiteSegment other (1 / 2) = some both ∧
        blend.convertTo Catalog.hermite = pure both) ∧
      ∃ second otherFirst front back, arch.split? (1 / 2) = .ok (some (otherFirst, second)) ∧
        lerp? halvedHermite otherFirst (1 / 2) = some front ∧
        blend.split? (1 / 2) = .ok (some (front, back)) := by
  have left : convertedHermite.Shaped := shaped_of_validate (by rfl) rfl (by decide)
  have right : arch.Shaped := shaped_of_validate (by rfl) rfl (by decide)
  obtain ⟨blend, blended, samples, converts, splits⟩ := lerp?_commutes left right rfl (1 / 2)
  refine ⟨left, right, blend, blended, ?_, ?_, ?_⟩
  · obtain ⟨p, q, sampled, otherSampled, both⟩ := samples (1 / 2)
    have leftPoint : convertedHermite.sample (1 / 2) = .ok (planar (7 / 8) (-1 / 8)) := by decide +kernel
    have rightPoint : arch.sample (1 / 2) = .ok (planar 4 6) := by decide +kernel
    cases sampled.symm.trans leftPoint
    cases otherSampled.symm.trans rightPoint
    rw [both]
    decide +kernel
  · exact converts Catalog.hermite hermiteSegment
      (show (convertedHermite.convertTo Catalog.hermite).run = .ok (.ok hermiteSegment) by
        decide +kernel)
  · obtain ⟨first, second, otherFirst, otherSecond, front, back, halved, otherHalved, fronts, -, both⟩ :=
      splits rfl (1 / 2)
    have leftHalf : (convertedHermite.split? (1 / 2)).map (Option.map Prod.fst) =
        .ok (some halvedHermite) := by decide +kernel
    rw [halved] at leftHalf
    cases leftHalf
    exact ⟨otherSecond, otherFirst, front, back, otherHalved, fronts, both⟩

end Segment

end CurveForge
