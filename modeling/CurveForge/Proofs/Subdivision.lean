import Mathlib
import CurveForge.Catalog.Standard
import CurveForge.Proofs.Document.Splitting
import CurveForge.Proofs.Fraction.Value
import CurveForge.Segment

/-!
# Subdivision in text and in numbers

The statements of an emitted split bind every name once, and each name holds its entry
of the triangle of the control points, whatever the operators mean. A segment collects
the ends of one level of points after another, which gives the edges of the same
triangle. So both split a curve by the same operations.
-/

namespace CurveForge

open Reading

namespace Reading

def Statement.bound : Statement → List String
  | points names => names
  | define name _ => [name]

def Program.bound (program : Program) : List String := program.statements.flatMap Statement.bound

end Reading

namespace PointBinding

variable {supply level names : List String}

/-- The names of all rows come from the supply in order, and the last name stands behind them. -/
theorem names_rowsFrom_sublist {count : Nat} (size : level.length = count + 1)
    (enough : count * (count + 1) ≤ 2 * supply.length + 2) :
    ((rowsFrom count supply level).flatten.map name).Sublist (supply ++ ["p"]) := by
  cases count with
  | zero => exact List.nil_sublist _
  | succ count =>
      obtain ⟨used, exact⟩ : ∃ used, (count + 1) * (count + 2) = 2 * used + 2 := by
        obtain ⟨half, twice⟩ := Nat.even_mul_succ_self (count + 1)
        exact ⟨half - 1, by nlinarith [Nat.sub_add_cancel (show 1 ≤ half by nlinarith)]⟩
      rw [names_rowsFrom size exact (by linarith)]
      exact (List.take_sublist used supply).append (List.Sublist.refl _)

end PointBinding

namespace Blueprint

variable {names : List String} {n : Nat}

theorem flatten_splitRows (names : List String) :
    (splitRows names).flatten =
      names ++ (PointBinding.rows names).flatten.map PointBinding.name := by
  rw [splitRows, List.flatten_cons, List.map_flatten]

theorem bound_splitProgram (d : Dimension) (names : List String) :
    (splitProgram d names).bound = (splitRows names).flatten := by
  rw [flatten_splitRows, Program.bound, splitProgram, List.flatMap_cons, List.flatMap_map]
  exact congrArg (names ++ ·) List.map_eq_flatMap.symm

/-- No name of a split is bound twice, and none of them is that of the parameter. -/
theorem nodup_splitRows (count : names.length = n + 1) (few : n ≤ 6) (nodup : names.Nodup)
    (apart : ∀ name ∈ names, PointBinding.isLetter name = false) :
    (splitRows names).flatten.Nodup ∧ "t" ∉ (splitRows names).flatten := by
  have above : ((PointBinding.rows names).flatten.map PointBinding.name).Sublist
      (PointBinding.letters ++ ["p"]) := by
    rw [PointBinding.rows, count]
    exact PointBinding.names_rowsFrom_sublist count (PointBinding.enough_letters few)
  have letter : ∀ name ∈ PointBinding.letters ++ ["p"], PointBinding.isLetter name = true := by
    decide
  have once : (PointBinding.letters ++ ["p"]).Nodup := by decide
  have unused : "t" ∉ PointBinding.letters ++ ["p"] := by decide
  rw [flatten_splitRows]
  constructor
  · refine List.nodup_append.mpr ⟨nodup, once.sublist above, ?_⟩
    rintro name point _ bound rfl
    cases (letter name (above.subset bound)).symm.trans (apart name point)
  · rw [List.mem_append, not_or]
    refine ⟨fun point => ?_, fun bound => unused (above.subset bound)⟩
    cases apart "t" point

end Blueprint

namespace Segment

section Ends

variable {S : Type} {d : Nat} {first last : Point S d} {level : List (Point S d)}
  {halves : List (Point S d) × List (Point S d)}

/-- A point behind others, if there is room for it. -/
def push (points : List (Point S d)) (p : Point S d) : Checked (List (Point S d)) :=
  if points.length < capacity then .ok (points ++ [p]) else .error .capacityExceeded

/-- Both ends of a level behind the points that have been collected. -/
def pushEnds (halves : List (Point S d) × List (Point S d)) (level : List (Point S d)) :
    Checked (List (Point S d) × List (Point S d)) :=
  match level.head?, level.getLast? with
  | some first, some last => do
      let front ← push halves.1 first
      let back ← push halves.2 last
      return (front, back)
  | _, _ => .error .outOfBounds

theorem pushEnds_ok (frontRoom : halves.1.length < capacity) (backRoom : halves.2.length < capacity)
    (front : level.head? = some first) (back : level.getLast? = some last) :
    pushEnds halves level = .ok (halves.1 ++ [first], halves.2 ++ [last]) := by
  simp only [pushEnds, front, back, push, if_pos frontRoom, if_pos backRoom]
  rfl

end Ends

section Levels

variable {S : Type} [Scalar S] {d : Nat} {t : S} {level : List (Point S d)}
  {halves : List (Point S d) × List (Point S d)} {s : Segment S d}

def nextLevel (t : S) (level : List (Point S d)) : List (Point S d) :=
  (Casteljau.neighbours level).map fun pair => Point.lerp t pair.1 pair.2

theorem length_nextLevel : (nextLevel t level).length = level.length - 1 := by
  simp [nextLevel, Casteljau.neighbours]

/-- Collects the ends of a level and of all levels above it, until a single point is left. -/
def collect (t : S) (halves : List (Point S d) × List (Point S d)) (level : List (Point S d)) :
    Checked (List (Point S d) × List (Point S d)) := do
  let extended ← pushEnds halves level
  if 1 < level.length then collect t extended (nextLevel t level) else return extended
termination_by level.length
decreasing_by
  rw [length_nextLevel]
  omega

/-- The parts of the curve before and after a parameter, collected level by level. -/
def splitByLevels? (s : Segment S d) (t : S) : Checked (Option (Segment S d × Segment S d)) :=
  if !s.family.splittable then .ok none
  else do
    let halves ← collect t ([], []) s.points
    return some (⟨s.family, halves.1⟩, ⟨s.family, halves.2.reverse⟩)

/-- If there is room, the levels are the rows of a triangle, and their ends are collected in order.
The induction is on the number of levels that follow. -/
theorem collect_ok (halves : List (Point S d) × List (Point S d)) {count : Nat}
    (size : level.length = count + 1) (frontRoom : halves.1.length + level.length ≤ capacity)
    (backRoom : halves.2.length + level.length ≤ capacity) :
    collect t halves level =
      .ok (halves.1 ++ (Casteljau.rowsFrom (Point.lerp t) count level).filterMap List.head?,
        halves.2 ++ (Casteljau.rowsFrom (Point.lerp t) count level).filterMap List.getLast?) := by
  induction count generalizing level halves with
  | zero =>
      obtain ⟨point, rfl⟩ := List.length_eq_one_iff.mp size
      rw [collect, pushEnds_ok frontRoom backRoom rfl rfl]
      rfl
  | succ count ih =>
      have nonempty : level ≠ [] := List.ne_nil_of_length_eq_add_one size
      have front := List.head?_eq_some_head nonempty
      have back := List.getLast?_eq_some_getLast nonempty
      have several : 1 < level.length := by omega
      have shorter : (nextLevel t level).length = count + 1 := by
        rw [length_nextLevel, size, Nat.add_sub_cancel]
      have frontNext : (halves.1 ++ [level.head nonempty]).length + (nextLevel t level).length ≤
          capacity := by
        rw [List.length_append, List.length_singleton]
        omega
      have backNext : (halves.2 ++ [level.getLast nonempty]).length + (nextLevel t level).length ≤
          capacity := by
        rw [List.length_append, List.length_singleton]
        omega
      have above := ih (_, _) shorter frontNext backNext
      rw [List.append_assoc, List.append_assoc] at above
      rw [collect, pushEnds_ok (by omega) (by omega) front back, Casteljau.rowsFrom,
        List.filterMap_cons_some front, List.filterMap_cons_some back]
      exact (if_pos several).trans above

/-- A segment that has room for its points is split level by level. -/
theorem splitByLevels?_eq_split? (room : s.points.length ≤ capacity) :
    s.splitByLevels? t = s.split? t := by
  obtain ⟨family, points⟩ := s
  unfold split? splitByLevels?
  cases family.splittable with
  | false => rfl
  | true =>
      cases points with
      | nil =>
          rw [collect]
          rfl
      | cons first rest =>
          have size : (first :: rest).length = rest.length + 1 := rfl
          have fits : 0 + (first :: rest).length ≤ capacity := (Nat.zero_add _).trans_le room
          rw [collect_ok ([], []) size fits fits]
          rfl

/-- The halves of a segment are the edges of the triangle of its points. -/
theorem split?_map_range {f : Family} (splittable : f.splittable = true) (points : Nat → Point S d)
    (n : Nat) :
    (⟨f, (List.range (n + 1)).map points⟩ : Segment S d).split? t =
      .ok (some
        (⟨f, (List.range (n + 1)).map fun k => Casteljau.entry (Point.lerp t) points k 0⟩,
          ⟨f, (List.range (n + 1)).map fun k =>
            Casteljau.entry (Point.lerp t) points (n - k) k⟩)) := by
  have nonempty : ((List.range (n + 1)).map points).isEmpty = false := by simp
  simp only [split?, splittable, nonempty, Casteljau.edges_triangle, Bool.not_true,
    Bool.false_eq_true, if_false]

end Levels

end Segment

section Triangle

variable {α : Type}

@[reducible]
def Reading.Operations.scalar (operations : Operations α) (zero : α) (ofFraction : Fraction → α) :
    Scalar α where
  zero := zero
  add := operations.add
  sub := operations.sub
  mul := operations.mul
  ofFraction := ofFraction

/-- The triangle of vectors has the entries of the triangle of their components. -/
theorem entry_ofFn (operations : Operations α) (zero : α) (ofFraction : Fraction → α) (t : α)
    {d : Nat} (points : Nat → Fin d → α) (k i : Nat) :
    letI := operations.scalar zero ofFraction
    Casteljau.entry (Point.lerp t) (Vector.ofFn ∘ points) k i =
      Vector.ofFn (Casteljau.entry (operations.blend t) points k i) := by
  let := operations.scalar zero ofFraction
  have respects (a b : Fin d → α) :
      Vector.ofFn (operations.blend t a b) = Point.lerp t (Vector.ofFn a) (Vector.ofFn b) := by
    apply Vector.ext
    intro j bound
    rw [Point.lerp, Vector.getElem_zipWith, Vector.getElem_ofFn, Vector.getElem_ofFn,
      Vector.getElem_ofFn]
    rfl
  exact (Casteljau.entry_map Vector.ofFn respects k i).symm

/-- The statements bind every name of the rows once, and never that of the parameter. In the end
each name holds its entry of the triangle of the points. -/
structure Reading.Program.Fills (program : Program) (operations : Operations α) (t : α)
    (d : Dimension) (n : Nat) (points : Nat → Fin d.number → α) (rows : List (List String)) :
    Prop where
  bound : program.bound = rows.flatten
  once : program.bound.Nodup
  parameter : "t" ∉ program.bound
  entries : ∃ final,
    program.statements.foldlM
        (Statement.run operations (((List.range (n + 1)).map points).map d.value))
        (Store.bind (fun _ => none) "t" (.scalar t)) = some final ∧
      List.Forall₂ (List.Forall₂ (PointBinding.Binds final d)) rows
        ((List.range (n + 1)).map fun k =>
          (List.range (n + 1 - k)).map (Casteljau.entry (operations.blend t) points k))

/-- Whatever the operators mean, the lines of a split are a program that fills the triangle of the
control points and answers its edges, and a segment answers the same points. -/
theorem splitBody_fills_triangle (operations : Operations α) (t : α) (d : Dimension) (level : Nat)
    {names : List String} {n : Nat} (count : names.length = n + 1) (few : n ≤ 6)
    (identifiers : ∀ name ∈ names, isIdentifier name = true) (nodup : names.Nodup)
    (apart : ∀ name ∈ names, PointBinding.isLetter name = false)
    (points : Nat → Fin d.number → α) :
    let control := (List.range (n + 1)).map points
    let first := (List.range (n + 1)).map fun k => Casteljau.entry (operations.blend t) points k 0
    let second := (List.range (n + 1)).map fun k =>
      Casteljau.entry (operations.blend t) points (n - k) k
    (∃ program, readProgram ((Blueprint.splitBody d names).linesAt level) = some program ∧
      program.Fills operations t d n points (Blueprint.splitRows names) ∧
      program.run operations (control.map d.value) t =
        some (first.map d.value, second.map d.value)) ∧
    ∀ (zero : α) (ofFraction : Fraction → α) (f : Family), f.splittable = true →
      n < Segment.capacity →
      letI := operations.scalar zero ofFraction
      let s : Segment α d.number := ⟨f, control.map Vector.ofFn⟩
      s.splitByLevels? t = s.split? t ∧
        s.split? t = .ok (some (⟨f, first.map Vector.ofFn⟩, ⟨f, second.map Vector.ofFn⟩)) := by
  intro control first second
  have nonempty : names ≠ [] := List.ne_nil_of_length_eq_add_one count
  have small : names.length ≤ 7 := by omega
  have width : control.length = names.length := by simp [control, count]
  constructor
  · refine ⟨_, Blueprint.readProgram_splitBody identifiers (PointBinding.readable_rows identifiers)
      d level nonempty, ?_, ?_⟩
    · obtain ⟨once, parameter⟩ := Blueprint.nodup_splitRows count few nodup apart
      rw [← Blueprint.bound_splitProgram d] at once parameter
      have entries := run_splitStatements operations t d width nonempty small nodup apart
      rw [Casteljau.triangle_map_range] at entries
      exact ⟨Blueprint.bound_splitProgram d names, once, parameter, entries⟩
    · rw [run_splitProgram operations t d width nonempty small nodup apart,
        Casteljau.edges_triangle]
  · intro zero ofFraction f splittable room
    let := operations.scalar zero ofFraction
    refine ⟨Segment.splitByLevels?_eq_split? (by simpa [control] using room), ?_⟩
    simp only [control, first, second, List.map_map, Segment.split?_map_range splittable,
      entry_ofFn operations zero ofFraction]
    rfl

def archPoints : Nat → Fin Dimension.two.number → ℚ
  | 0 => ![0, 0]
  | 1 => ![0, 8]
  | 2 => ![8, 8]
  | _ => ![8, 0]

/-- Both halves of an arch, in text and in numbers. -/
theorem splitBody_fills_triangle_arch :
    (∃ program,
      readProgram ((Blueprint.splitBody .two ["p0", "p1", "p2", "p3"]).linesAt 2) = some program ∧
      program.Fills .exact (1 / 2) .two 3 archPoints
        [["p0", "p1", "p2", "p3"], ["a", "b", "c"], ["d", "e"], ["p"]] ∧
      program.run .exact [.vector [0, 0], .vector [0, 8], .vector [8, 8], .vector [8, 0]] (1 / 2) =
        some ([.vector [0, 0], .vector [0, 4], .vector [2, 6], .vector [4, 6]],
          [.vector [4, 6], .vector [6, 6], .vector [8, 4], .vector [8, 0]])) ∧
    letI := Operations.exact.scalar 0 Fraction.value
    let s : Segment ℚ Dimension.two.number :=
      ⟨Catalog.bezierCubic, [#v[0, 0], #v[0, 8], #v[8, 8], #v[8, 0]]⟩
    s.splitByLevels? (1 / 2) = s.split? (1 / 2) ∧
      s.split? (1 / 2) =
        .ok (some (⟨Catalog.bezierCubic, [#v[0, 0], #v[0, 4], #v[2, 6], #v[4, 6]]⟩,
          ⟨Catalog.bezierCubic, [#v[4, 6], #v[6, 6], #v[8, 4], #v[8, 0]]⟩)) := by
  have control : (List.range (3 + 1)).map archPoints = [![0, 0], ![0, 8], ![8, 8], ![8, 0]] := rfl
  have first : ((List.range (3 + 1)).map fun k =>
      Casteljau.entry (Operations.exact.blend (1 / 2)) archPoints k 0) =
      ([![0, 0], ![0, 4], ![2, 6], ![4, 6]] : List (Fin Dimension.two.number → ℚ)) := by
    decide +kernel
  have second : ((List.range (3 + 1)).map fun k =>
      Casteljau.entry (Operations.exact.blend (1 / 2)) archPoints (3 - k) k) =
      ([![4, 6], ![6, 6], ![8, 4], ![8, 0]] : List (Fin Dimension.two.number → ℚ)) := by
    decide +kernel
  have count : ["p0", "p1", "p2", "p3"].length = 3 + 1 := rfl
  obtain ⟨⟨program, read, fills, run⟩, numeric⟩ :=
    splitBody_fills_triangle Operations.exact (1 / 2) .two 2 count (by decide) (by decide +kernel)
      (by decide) (by decide +kernel) archPoints
  have split := numeric 0 Fraction.value Catalog.bezierCubic rfl (by decide)
  rw [control, first, second] at run split
  exact ⟨⟨program, read, fills, run⟩, split⟩

end Triangle

end CurveForge
