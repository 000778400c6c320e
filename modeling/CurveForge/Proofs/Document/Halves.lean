import Mathlib
import CurveForge.Catalog.Standard
import CurveForge.Proofs.Basis
import CurveForge.Proofs.Document.Generate
import CurveForge.Proofs.Document.Splitting
import CurveForge.Proofs.Formula.Conversion

/-!
# The halves of a split segment

If the matrix of a family is the Bernstein matrix of its degree, the body of the
emitted split answers the control points of both parts of the curve.
-/

namespace CurveForge

open Reading

namespace Blueprint

def splitLines (d : Dimension) (points : List String) : List String :=
  (splitBody d points).linesAt 2

def splitFunctionLines (d : Dimension) (points : List String) : List String :=
  "    pub fn split(&self, t: f32) -> (Self, Self) \x7b" :: splitLines d points ++ ["    \x7d"]

variable {b : Blueprint}

theorem infix_splitFunction (b : Blueprint) :
    splitFunctionLines b.dimension b.pointNames <:+: b.splitFunction.linesAt 1 := by
  have block : splitFunctionLines b.dimension b.pointNames =
      (Source.block "pub fn split(&self, t: f32) -> (Self, Self)"
        (splitBody b.dimension b.pointNames)).linesAt 1 := rfl
  rw [block]
  apply Source.infix_concat
  simp

theorem infix_inherentImplementation (splittable : b.splittable = true) :
    splitFunctionLines b.dimension b.pointNames <:+: b.inherentImplementation.linesAt 0 := by
  have last : b.splitFunction.linesAt 1 <:+:
      (Source.onlyIf b.splittable (.blank ++ b.splitFunction)).linesAt 1 := by
    rw [splittable]
    exact ⟨[""], [], List.append_nil _⟩
  unfold inherentImplementation
  refine List.IsInfix.trans ?_ (Source.infix_concat List.mem_cons_self 0)
  refine List.IsInfix.trans ?_ (Source.infix_enclosed .block _ _ 0)
  refine ((infix_splitFunction b).trans last).trans ?_
  apply Source.infix_concat
  simp

/-- A type that can be split has the function in its document. -/
theorem infix_document (splittable : b.splittable = true) :
    splitFunctionLines b.dimension b.pointNames <:+: b.document.lines := by
  have lines : b.document.lines = b.source.linesAt 0 := Source.lines_eq_linesAt b.source
  rw [lines]
  refine (infix_inherentImplementation splittable).trans ?_
  apply Source.infix_concat
  simp

end Blueprint

variable {catalog : Catalog} {f : Family} {d : Dimension} {style : NumberStyle}
  {document : Document} {rows : List String}

theorem splitFunctionLines_infix (splittable : f.splittable = true)
    (generated : (generateType catalog f d.number).run = .ok (.ok document)) :
    Blueprint.splitFunctionLines d f.pointNames <:+: document.lines := by
  obtain ⟨b, describes, fits, rfl⟩ := describes_of_generateType generated
  have dimension : b.dimension = d :=
    Except.ok.inj (describes.dimension.symm.trans d.ofNumber_number)
  rw [← dimension, ← describes.pointNames fits]
  exact Blueprint.infix_document (describes.splittable.trans splittable)

/-- The value at `u` of the polynomial whose coefficients are written in the rows, if the control
points have the given values. -/
def curveValue? (rows names : List String) (values : List ℚ) (u : ℚ) : Option ℚ :=
  (evaluateAll (assign names values) rows).map fun coefficients => powerSum coefficients u

/-- In every component, the first points give the part of a curve before a parameter, and the second
points the part behind it. -/
structure Halves {k : Nat} (rows names : List String) (control : List (Fin k → ℚ)) (t : ℚ)
    (first second : List (Fin k → ℚ)) : Prop where
  first_length : first.length = names.length
  second_length : second.length = names.length
  before (u : ℚ) (i : Fin k) : ∃ value,
    curveValue? rows names (first.map (· i)) u = some value ∧
    curveValue? rows names (control.map (· i)) (u * t) = some value
  behind (u : ℚ) (i : Fin k) : ∃ value,
    curveValue? rows names (second.map (· i)) u = some value ∧
    curveValue? rows names (control.map (· i)) (t + u * (1 - t)) = some value

theorem polynomialRows_bernstein (small : f.degree ≤ 5)
    (bernstein : f.matrix = Basis.bernstein f.degree) (style : NumberStyle) :
    ∃ rows, polynomialRows f style = .ok rows := by
  cases result : f.matrix.formulas f.pointNames style with
  | error fault =>
      have reduced : f.matrix.Reduced := bernstein ▸ Basis.reduced_bernstein f.degree
      have failed := (SquareMatrix.formulas_eq_error reduced result).2
      rw [bernstein] at failed
      exact absurd (Basis.negatable_bernstein small) failed
  | ok formulas => exact ⟨_, polynomialRows_eq_ok_iff.mpr ⟨formulas, result, rfl⟩⟩

/-- With the Bernstein matrix, the rows give the Bernstein curve. -/
theorem curveValue?_bernstein (fits : f.WellFormed) (small : f.degree ≤ 5)
    (bernstein : f.matrix = Basis.bernstein f.degree)
    (identifiers : ∀ name ∈ f.pointNames, isIdentifier name = true)
    (written : polynomialRows f style = .ok rows) (points : Nat → ℚ) (u : ℚ) :
    curveValue? rows f.pointNames ((List.range (f.degree + 1)).map points) u =
      some (Bernstein.curve f.degree points u) := by
  obtain ⟨formulas, result, rfl⟩ := polynomialRows_eq_ok_iff.mp written
  have reduced : f.matrix.Reduced := bernstein ▸ Basis.reduced_bernstein f.degree
  have width : ((List.range (f.degree + 1)).map points).length = f.pointNames.length := by
    rw [List.length_map, List.length_range, fits.name_count]
  rw [curveValue?, SquareMatrix.formulas_evaluate reduced identifiers fits.names_nodup result width,
    Option.map_some, bernstein, powerSum_applied_bernstein small]

/-- The edges of the triangle over the control points are points of the halves. -/
theorem halves_edges {k : Nat} (fits : f.WellFormed) (small : f.degree ≤ 5)
    (bernstein : f.matrix = Basis.bernstein f.degree)
    (identifiers : ∀ name ∈ f.pointNames, isIdentifier name = true)
    (written : polynomialRows f style = .ok rows) (t : ℚ) {control : List (Fin k → ℚ)}
    (count : control.length = f.pointNames.length) :
    Halves rows f.pointNames control t
      (Casteljau.edges (Casteljau.triangle (Operations.exact.blend t) control)).1
      (Casteljau.edges (Casteljau.triangle (Operations.exact.blend t) control)).2 := by
  have size : control.length = f.degree + 1 := count.trans fits.name_count
  obtain ⟨points, rfl⟩ : ∃ points : Nat → Fin k → ℚ,
      control = (List.range (f.degree + 1)).map points := by
    refine ⟨fun c => control.getD c 0, List.ext_getElem (by simp [size]) ?_⟩
    intro c left _
    simp [left]
  have value (points : Nat → Fin k → ℚ) (u : ℚ) (i : Fin k) :
      curveValue? rows f.pointNames
        (((List.range (f.degree + 1)).map points).map (· i)) u =
          some (Bernstein.curve f.degree (fun c => points c i) u) := by
    rw [List.map_map]
    exact curveValue?_bernstein fits small bernstein identifiers written _ u
  have component (i : Fin k) (row c : Nat) :
      Casteljau.entry (Operations.exact.blend t) points row c i =
        Casteljau.entry (Bernstein.lerp t) (fun c => points c i) row c :=
    Casteljau.entry_map (fun point : Fin k → ℚ => point i) (fun _ _ => rfl) row c
  rw [Casteljau.edges_triangle]
  constructor
  · rw [List.length_map, List.length_range, fits.name_count]
  · rw [List.length_map, List.length_range, fits.name_count]
  · intro u i
    refine ⟨_, ?_, value points (u * t) i⟩
    rw [value, ← Bernstein.curve_firstEdge]
    simp only [component]
  · intro u i
    refine ⟨_, ?_, value points (t + u * (1 - t)) i⟩
    rw [value, ← Bernstein.curve_lastEdge]
    simp only [component]

/-- Every document of a splittable family over a Bernstein matrix has the function that splits a
segment, and executing its body halves the curve. -/
theorem splitLines_halve_curve (valid : f.validate = pure ()) (splittable : f.splittable = true)
    (small : f.degree ≤ 5) (bernstein : f.matrix = Basis.bernstein f.degree)
    (identifiers : ∀ name ∈ f.pointNames, isIdentifier name = true)
    (apart : ∀ name ∈ f.pointNames, PointBinding.isLetter name = false) (d : Dimension)
    (style : NumberStyle) :
    (∀ catalog document, (generateType catalog f d.number).run = .ok (.ok document) →
      Blueprint.splitFunctionLines d f.pointNames <:+: document.lines) ∧
    ∃ rows, polynomialRows f style = .ok rows ∧
      ∀ control : List (Fin d.number → ℚ), control.length = f.pointNames.length → ∀ t : ℚ,
        ∃ first second,
          execute .exact (control.map d.value) t (Blueprint.splitLines d f.pointNames) =
            some (first.map d.value, second.map d.value) ∧
          Halves rows f.pointNames control t first second := by
  have fits := Family.WellFormed.of_validate valid
  obtain ⟨rows, written⟩ := polynomialRows_bernstein small bernstein style
  refine ⟨fun catalog document generated => splitFunctionLines_infix splittable generated,
    rows, written, ?_⟩
  intro control count t
  have nonempty : f.pointNames ≠ [] := by
    rw [← List.length_pos_iff, fits.name_count]
    exact Nat.succ_pos _
  have few : f.pointNames.length ≤ 7 := by
    rw [fits.name_count]
    omega
  exact ⟨_, _, execute_splitBody .exact t d 2 count nonempty few identifiers fits.names_nodup apart,
    halves_edges fits small bernstein identifiers written t count⟩

/-- The cubic Bézier segment of the plane is generated, and its split halves the curve. -/
theorem splitLines_halve_curve_bezierCubic :
    ((generateType Catalog.standard Catalog.bezierCubic 2).run.toOption.bind
      Except.toOption).isSome = true ∧
    polynomialRows Catalog.bezierCubic .integer =
      .ok ["p0", "3*(-p0+p1)", "3*p0-6*p1+3*p2", "-p0+3*p1-3*p2+p3"] ∧
    ∀ control : List (Fin 2 → ℚ), control.length = 4 → ∀ t : ℚ, ∃ first second,
      execute .exact (control.map Dimension.two.value) t
          (Blueprint.splitLines .two Catalog.bezierCubic.pointNames) =
        some (first.map Dimension.two.value, second.map Dimension.two.value) ∧
      Halves ["p0", "3*(-p0+p1)", "3*p0-6*p1+3*p2", "-p0+3*p1-3*p2+p3"]
        Catalog.bezierCubic.pointNames control t first second := by
  have written : polynomialRows Catalog.bezierCubic .integer =
      .ok ["p0", "3*(-p0+p1)", "3*p0-6*p1+3*p2", "-p0+3*p1-3*p2+p3"] := by decide +kernel
  obtain ⟨rows, result, halves⟩ := (splitLines_halve_curve (f := Catalog.bezierCubic) (by rfl)
    (by rfl) (by decide) Basis.cubicBezier_eq_bernstein (by decide +kernel) (by decide +kernel) .two
    .integer).2
  cases result.symm.trans written
  exact ⟨by decide +kernel, written, halves⟩

end CurveForge
