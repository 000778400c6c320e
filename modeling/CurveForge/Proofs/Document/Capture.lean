import CurveForge.Proofs.Document.Halves
import CurveForge.Proofs.Source.Outline

/-!
# Names that a split captures

The body of a split binds a letter to every intermediate point. The names of the control
points are free, so they may be among these letters, the name of the last point or that of
the parameter; a line that binds such a name again hides the control point from the lines
behind it. The letters are taken in order, so the degree tells which names are safe.
-/

namespace CurveForge

open Reading Source

/-- What every line starts with that binds names in a body at the second level. -/
def letStart : String := "        let "

/-- The name that a line binds; a pattern in brackets binds no single name. -/
def letName? (line : String) : Option String :=
  if startsWith letStart line then
    match line.toList.drop letStart.toList.length with
    | '[' :: _ => none
    | rest => some (String.ofList (rest.takeWhile (· ≠ ':')))
  else none

def letNames (lines : List String) : List String := lines.filterMap letName?

theorem not_punctuation_of_isIdentifier {name : String} (identifier : isIdentifier name = true) :
    ∀ c ∈ name.toList, c ∉ punctuation := by
  intro c member inside
  have word := isWordChar_of_isNameChar (isNameChar_of_mem_identifier identifier c member)
  rw [isWordChar_punctuation inside] at word
  cases word

theorem letName?_let {name : String} (identifier : isIdentifier name = true) (rest : String) :
    letName? (letStart ++ (name ++ (": " ++ rest))) = some name := by
  have plain := not_punctuation_of_isIdentifier identifier
  obtain ⟨first, others, spelled, -⟩ := isIdentifier_iff.mp identifier
  have word : first ≠ '[' := by
    rintro rfl
    exact plain '[' (spelled ▸ List.mem_cons_self) (by decide)
  have colon : ": ".toList = [':', ' '] := rfl
  have upToColon : (name ++ (": " ++ rest)).toList.takeWhile (· ≠ ':') = name.toList := by
    rw [String.toList_append, String.toList_append, colon, List.takeWhile_append_of_pos,
      List.cons_append, List.takeWhile_cons_of_neg (by decide), List.append_nil]
    intro c member
    exact decide_eq_true fun same => plain c member (same ▸ by decide)
  unfold letName?
  rw [if_pos (startsWith_append_self _ _), String.toList_append, List.drop_left]
  split
  next bracket =>
    rw [String.toList_append, spelled] at bracket
    exact absurd (List.cons.inj bracket).1 word
  next => rw [upToColon, String.ofList_toList]

/-- A pattern in brackets binds no single name. -/
theorem letName?_pattern (rest : String) : letName? (letStart ++ ("[" ++ rest)) = none := by
  have bracket : "[".toList = ['['] := rfl
  unfold letName?
  rw [if_pos (startsWith_append_self _ _), String.toList_append, List.drop_left,
    String.toList_append, bracket]
  rfl

/-- A line that starts in another way binds no name. -/
theorem letName?_of_apart {fixed : String} (apart : Apart letStart fixed) (rest : String) :
    letName? (fixed ++ rest) = none := by
  unfold letName?
  rw [apart.startsWith_append, if_neg Bool.false_ne_true]

namespace Blueprint

variable {d : Dimension} {names : List String}

/-- The statement of a binding binds its name, whatever lines it takes. -/
theorem letNames_statement (d : Dimension) {b : PointBinding}
    (identifier : isIdentifier b.name = true) :
    letNames ((b.statement d).linesAt 2) = [b.name] := by
  have start : letStart = Writer.indentation 2 ++ "let " := rfl
  have opening (rest : String) :
      letName? (Writer.indentation 2 ++ ("let " ++ (b.name ++ (": " ++ rest)))) = some b.name := by
    rw [← String.append_assoc, ← start]
    exact letName?_let identifier rest
  have inner (text : String) : letName? (Writer.indentation 3 ++ text) = none :=
    letName?_of_apart (by decide) text
  have closing : letName? (Writer.indentation 2 ++ ");") = none := by decide
  unfold PointBinding.statement
  cases d.vector? with
  | none => simp [letNames, linesAt, String.append_assoc, opening]
  | some vector =>
      simp [letNames, linesAt, scope, Guard.opening, Guard.inner, Guard.indents, Guard.closing,
        String.append_assoc, opening, inner, closing]

theorem letNames_statements (d : Dimension) {bindings : List PointBinding}
    (identifiers : ∀ b ∈ bindings, isIdentifier b.name = true) :
    letNames ((bindings.map (PointBinding.statement d)).flatMap (linesAt 2)) =
      bindings.map PointBinding.name := by
  induction bindings with
  | nil => rfl
  | cons b rest ih =>
      obtain ⟨first, others⟩ := List.forall_mem_cons.mp identifiers
      have here := letNames_statement d first
      have below := ih others
      unfold letNames at here below ⊢
      rw [List.map_cons, List.flatMap_cons, List.filterMap_append, here, below]
      rfl

/-- The lines of a split bind the names of its rows, and the pattern in front the control points. -/
theorem letNames_splitLines (d : Dimension) {names : List String}
    (identifiers : ∀ b ∈ (PointBinding.rows names).flatten, isIdentifier b.name = true) :
    letNames (splitLines d names) = (PointBinding.rows names).flatten.map PointBinding.name := by
  have points (rest : String) :
      letName? (Writer.indentation 2 ++ ("let " ++ ("[" ++ rest))) = none := by
    rw [← String.append_assoc]
    exact letName?_pattern rest
  have result (rest : String) : letName? (Writer.indentation 2 ++ ("(" ++ rest)) = none := by
    rw [← String.append_assoc]
    exact letName?_of_apart (by decide) rest
  have statements := letNames_statements d identifiers
  unfold letNames at statements ⊢
  simp only [splitLines, splitBody, linesAt_concat, List.flatMap_cons, List.flatMap_nil, linesAt,
    Phrase.brackets, Phrase.parens, String.append_assoc, List.filterMap_append, statements,
    List.append_nil, List.nil_append, List.filterMap_cons, points, result, List.filterMap_nil]

end Blueprint

namespace PointBinding

def lettersUsed (degree : Nat) : Nat := degree * (degree + 1) / 2 - 1

theorem mul_succ_eq_lettersUsed (n : Nat) : (n + 1) * (n + 2) = 2 * lettersUsed (n + 1) + 2 := by
  obtain ⟨half, twice⟩ := Nat.even_mul_succ_self (n + 1)
  have positive : 2 ≤ (n + 1) * (n + 1 + 1) := by nlinarith
  change (n + 1) * (n + 1 + 1) = _
  rw [lettersUsed, twice]
  omega

theorem lettersUsed_le {degree : Nat} (small : degree ≤ 6) :
    lettersUsed degree ≤ letters.length := by
  interval_cases degree <;> decide

def splitNames (degree : Nat) : List String := letters.take (lettersUsed degree) ++ ["p"]

theorem nodup_splitNames (degree : Nat) : ("t" :: splitNames degree).Nodup := by
  have all : ("t" :: (letters ++ ["p"])).Nodup := by decide
  refine all.sublist (.cons_cons _ ?_)
  exact (List.take_sublist _ _).append (.refl _)

theorem isIdentifier_of_mem_splitNames (degree : Nat) :
    ∀ name ∈ splitNames degree, isIdentifier name = true := by
  intro name member
  rcases List.mem_append.mp member with letter | last
  · exact isIdentifier_of_mem_letters name (List.mem_of_mem_take letter)
  · rw [List.mem_singleton.mp last]
    decide

variable {names : List String} {n : Nat}

theorem names_rows (count : names.length = n + 2) (small : n + 1 ≤ 6) :
    (rows names).flatten.map name = splitNames (n + 1) := by
  rw [rows, count]
  exact names_rowsFrom count (mul_succ_eq_lettersUsed n) (lettersUsed_le small)

/-- Names that a split does not bind leave its letters fresh. -/
theorem fresh_of_apart {degree : Nat} (apart : ∀ name ∈ names, name ∉ splitNames degree) :
    Fresh (letters.take (lettersUsed degree)) names where
  nodup := (by decide : letters.Nodup).sublist (List.take_sublist _ _)
  parameter member := absurd (List.mem_of_mem_take member) (by decide)
  last member := absurd (List.mem_of_mem_take member) (by decide)
  apart name letter point := apart name point (List.mem_append_left _ letter)
  lastApart point := apart "p" point (List.mem_append_right _ List.mem_cons_self)

end PointBinding

namespace Blueprint

variable {names : List String} {n : Nat}

/-- A name that a body binds again, or that the parameter has. -/
def Captures (lines : List String) (name : String) : Prop := name ∈ "t" :: letNames lines

theorem letNames_eq_splitNames (d : Dimension) (count : names.length = n + 2)
    (small : n + 1 ≤ 6) : letNames (splitLines d names) = PointBinding.splitNames (n + 1) := by
  have named := PointBinding.names_rows count small
  rw [letNames_splitLines, named]
  intro b member
  apply PointBinding.isIdentifier_of_mem_splitNames (n + 1)
  exact named ▸ List.mem_map_of_mem member

/-- If no control point is captured, the body computes the edges of the triangle. -/
theorem execute_of_apart {α : Type} (operations : Operations α) (t : α) (d : Dimension)
    {control : List (Fin d.number → α)} (width : control.length = names.length)
    (count : names.length = n + 2) (small : n + 1 ≤ 6)
    (identifiers : ∀ name ∈ names, isIdentifier name = true) (nodup : names.Nodup)
    (apart : ∀ name ∈ names, name ∉ "t" :: PointBinding.splitNames (n + 1)) :
    execute operations (control.map d.value) t (splitLines d names) =
      some ((Casteljau.edges (Casteljau.triangle (operations.blend t) control)).1.map d.value,
        (Casteljau.edges (Casteljau.triangle (operations.blend t) control)).2.map d.value) := by
  have nonempty : names ≠ [] := List.ne_nil_of_length_eq_add_one count
  have fresh := PointBinding.fresh_of_apart fun name member inside =>
    apart name member (List.mem_cons_of_mem _ inside)
  rw [execute, splitLines, readProgram_splitBody identifiers
    (PointBinding.readable_rows identifiers) d 2 nonempty, Option.bind_some]
  exact run_splitProgram_of_entries operations t d (run_splitStatements_of_fresh operations t d width
    count (PointBinding.lettersUsed_le small) (PointBinding.mul_succ_eq_lettersUsed n).le nodup
    (fun member => apart "t" member List.mem_cons_self) fresh)

end Blueprint

/-- Names of points are apart from others exactly if all together are different. -/
theorem nodup_iff_apart {names bound : List String} {parameter : String} (nodup : names.Nodup)
    (once : (parameter :: bound).Nodup) :
    (∀ name ∈ names, name ∉ parameter :: bound) ↔ (parameter :: names ++ bound).Nodup := by
  have perm : (names ++ parameter :: bound).Perm (parameter :: names ++ bound) := List.perm_middle
  rw [← perm.nodup_iff, List.nodup_append]
  constructor
  · rintro apart
    refine ⟨nodup, once, ?_⟩
    rintro name point _ other rfl
    exact apart name point other
  · rintro ⟨-, -, differ⟩ name point other
    exact differ name point name other rfl

/-- The body of a split binds the last point and as many letters as its degree needs. It captures no
control point exactly if no point has one of these names or that of the parameter. Then no name is
bound twice, and the body computes the triangle whatever the operators mean. -/
theorem splitLines_capture_iff {f : Family} (valid : f.validate = pure ())
    (splittable : f.splittable = true) (small : f.degree ≤ 5) (d : Dimension) :
    let lines := Blueprint.splitLines d f.pointNames
    (∀ catalog document, (generateType catalog f d.number).run = .ok (.ok document) →
      Blueprint.splitFunctionLines d f.pointNames <:+: document.lines) ∧
    letNames lines =
      PointBinding.letters.take (f.degree * (f.degree + 1) / 2 - 1) ++ ["p"] ∧
    ((∀ name ∈ f.pointNames, ¬Blueprint.Captures lines name) ↔
      ∀ name ∈ f.pointNames, name ≠ "t" ∧ name ≠ "p" ∧
        name ∉ PointBinding.letters.take (f.degree * (f.degree + 1) / 2 - 1)) ∧
    ((∀ name ∈ f.pointNames, ¬Blueprint.Captures lines name) ↔
      ("t" :: f.pointNames ++ letNames lines).Nodup) ∧
    ((∀ name ∈ f.pointNames, ¬Blueprint.Captures lines name) →
      (∀ name ∈ f.pointNames, isIdentifier name = true) →
      ∀ (α : Type) (operations : Operations α) (t : α) (control : List (Fin d.number → α)),
        control.length = f.pointNames.length →
        execute operations (control.map d.value) t lines =
          some ((Casteljau.edges (Casteljau.triangle (operations.blend t) control)).1.map d.value,
            (Casteljau.edges (Casteljau.triangle (operations.blend t) control)).2.map d.value)) := by
  intro lines
  have fits := Family.WellFormed.of_validate valid
  obtain ⟨n, degree⟩ := Nat.exists_eq_succ_of_ne_zero fits.degree_pos.ne'
  have count : f.pointNames.length = n + 2 := by rw [fits.name_count, degree]
  have bound : letNames lines = PointBinding.splitNames f.degree :=
    degree ▸ Blueprint.letNames_eq_splitNames d count (by omega)
  have captures (name : String) :
      Blueprint.Captures lines name ↔ name ∈ "t" :: PointBinding.splitNames f.degree := by
    rw [Blueprint.Captures, bound]
  refine ⟨fun catalog document generated => splitFunctionLines_infix splittable generated,
    bound, ?_, ?_, ?_⟩
  · refine forall₂_congr fun name _ => ?_
    simp only [captures, PointBinding.splitNames, List.mem_cons, List.mem_append,
      List.not_mem_nil, or_false, not_or, PointBinding.lettersUsed]
    tauto
  · have apart : (∀ name ∈ f.pointNames, ¬Blueprint.Captures lines name) ↔
        ∀ name ∈ f.pointNames, name ∉ "t" :: PointBinding.splitNames f.degree :=
      forall₂_congr fun name _ => not_congr (captures name)
    rw [bound, apart]
    exact nodup_iff_apart fits.names_nodup (PointBinding.nodup_splitNames f.degree)
  · intro apart identifiers α operations t control width
    exact Blueprint.execute_of_apart operations t d width count (by omega) identifiers
      fits.names_nodup fun name member inside =>
        apart name member ((captures name).mpr (degree ▸ inside))

def lateLettered : Family := { Catalog.bezierQuadratic with pointNames := ["x", "y", "z"] }

/-- Two letters are bound for three points, so late letters are safe: both halves are right. -/
theorem splitLines_capture_iff_late :
    lateLettered.validate = pure () ∧ lateLettered.splittable = true ∧ lateLettered.degree ≤ 5 ∧
    letNames (Blueprint.splitLines .one lateLettered.pointNames) = ["a", "b", "p"] ∧
    (∀ name ∈ lateLettered.pointNames,
      ¬Blueprint.Captures (Blueprint.splitLines .one lateLettered.pointNames) name) ∧
    execute .exact [.scalar 0, .scalar 4, .scalar 8] (1 / 2)
        (Blueprint.splitLines .one lateLettered.pointNames) =
      some ([.scalar 0, .scalar 2, .scalar 4], [.scalar 4, .scalar 6, .scalar 8]) := by
  obtain ⟨-, bound, apart, -, executes⟩ :=
    splitLines_capture_iff (f := lateLettered) rfl rfl (by decide) .one
  have free := apart.mpr (by decide)
  have halves := executes free (by decide +kernel) ℚ .exact (1 / 2)
    [fun _ => 0, fun _ => 4, fun _ => 8] rfl
  have edges : Casteljau.edges (Casteljau.triangle (Operations.exact.blend (1 / 2))
      [fun _ : Fin Dimension.one.number => (0 : ℚ), fun _ => 4, fun _ => 8]) =
      ([fun _ => 0, fun _ => 2, fun _ => 4], [fun _ => 4, fun _ => 6, fun _ => 8]) := by
    decide +kernel
  rw [edges] at halves
  exact ⟨rfl, rfl, by decide, bound, free, halves⟩

def lettered : Family := { Catalog.bezierQuadratic with pointNames := ["a", "b", "c"] }

/-- The body rebinds the first point, which is part of the first half, and the second one. -/
theorem split_captures_lettered :
    lettered.validate = pure () ∧ lettered.splittable = true ∧ lettered.degree = 2 ∧
    (∃ document, (generateType ⟨[]⟩ lettered 1).run = .ok (.ok document) ∧
      Blueprint.splitFunctionLines .one lettered.pointNames <:+: document.lines) ∧
    Blueprint.splitLines .one lettered.pointNames = [
      "        let [a, b, c] = self.points();",
      "        let a: f32 = a + (b - a) * t;",
      "        let b: f32 = b + (c - b) * t;",
      "        let p: f32 = a + (b - a) * t;",
      "        (Self::new(a, a, p), Self::new(p, b, c))"] ∧
    "a" ∈ lettered.pointNames ∧
    Blueprint.Captures (Blueprint.splitLines .one lettered.pointNames) "a" ∧
    execute .exact [.scalar 0, .scalar 4, .scalar 8] (1 / 2)
        (Blueprint.splitLines .one lettered.pointNames) =
      some ([.scalar 2, .scalar 2, .scalar 4], [.scalar 4, .scalar 6, .scalar 8]) ∧
    Casteljau.edges (Casteljau.triangle (fun a b : ℚ => a + (b - a) * (1 / 2)) [0, 4, 8]) =
      ([0, 2, 4], [4, 6, 8]) := by
  have identifiers : ∀ name ∈ lettered.pointNames, isIdentifier name = true := by decide +kernel
  obtain ⟨document, generated⟩ := Generation.exists_value_of_isSome
    (x := generateType ⟨[]⟩ lettered 1) (by decide +kernel)
  refine ⟨rfl, rfl, rfl, ⟨document, generated, ?_⟩, ?_, ?_, ?_, ?_, ?_⟩
  · exact splitFunctionLines_infix (d := .one) rfl generated
  · decide +kernel
  · decide
  · rw [Blueprint.Captures, Blueprint.letNames_eq_splitNames .one rfl (by decide)]
    decide
  · rw [execute, Blueprint.splitLines, Blueprint.readProgram_splitBody identifiers
      (PointBinding.readable_rows identifiers) .one 2 (List.cons_ne_nil _ _)]
    decide +kernel
  · decide +kernel

end CurveForge
