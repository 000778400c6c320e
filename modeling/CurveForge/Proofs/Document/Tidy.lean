import Mathlib
import CurveForge.Proofs.Document.Balance
import CurveForge.Proofs.Document.Generate
import CurveForge.Proofs.Formula.Rows
import CurveForge.Proofs.Text

/-!
# Documents with matching brackets

The names and texts of a family reach its documents as they are, in lower case, as
part of a type name, or inside a formula. None of this brings a bracket into a
document that the family itself does not have.
-/

namespace CurveForge

open Brackets

theorem free_of_isNameChar {c : Char} (nameChar : Reading.isNameChar c = true) :
    c ∉ Brackets.all := by
  intro bracket
  have punctuation : Brackets.all.all (fun c => !Reading.isNameChar c) = true := by decide +kernel
  have other := List.all_eq_true.mp punctuation c bracket
  rw [nameChar] at other
  cases other

/-- Identifiers are plain names. -/
theorem isPlainName_of_isIdentifier {name : String} (identifier : Reading.isIdentifier name = true) :
    IsPlainName name := by
  have nameChars := Reading.isNameChar_of_mem_identifier identifier
  refine ⟨fun c member => free_of_isNameChar (nameChars c member), ?_⟩
  obtain ⟨first, rest, spelled, letter, -⟩ := Reading.isIdentifier_iff.mp identifier
  rw [spelled, List.head?_cons, Option.any_some, bne_iff_ne]
  rintro rfl
  have blank : Text.isAlphabetic ' ' = false := by decide +kernel
  rw [blank] at letter
  cases letter

theorem bracketFree_lowercase {text : String} (free : BracketFree text) :
    BracketFree (Text.lowercase text) := by
  intro c member
  rcases Text.mem_or_isLowered member with own | lowered
  · exact free c own
  · intro bracket
    have codes : Brackets.all.all (fun c => (0 < c.toNat && c.toNat < 97) ||
        (123 ≤ c.toNat && c.toNat < 128)) = true := by decide
    have code := List.all_eq_true.mp codes c bracket
    simp only [Bool.or_eq_true, Bool.and_eq_true, decide_eq_true_eq] at code
    unfold Text.IsLowered at lowered
    omega

namespace Family

variable {f : Family} {d : Dimension} {name : String}

theorem bracketFree_typeName (free : BracketFree f.id) (named : f.typeName d.number = .ok name) :
    BracketFree name := by
  intro c member
  rcases mem_typeName named member with own | alphanumeric
  · exact free c own
  · exact free_of_isAlphanum alphanumeric

theorem neat_typeName (plain : IsPlainName f.id) (named : f.typeName d.number = .ok name) :
    Neat name [] := by
  refine ⟨?_, (bracketFree_typeName plain.1 named).balanced⟩
  obtain ⟨word, -, spelled⟩ := Checked.bind_eq_ok_iff.mp named
  cases spelled
  exact ((plain.neat.plain.append word).append _).append _

end Family

theorem neat_wordText (n : Int64) : Neat (Fraction.wordText n) [] := by
  unfold Fraction.wordText
  cases n.toInt with
  | ofNat m => exact neat_toString m
  | negSucc m => exact (neat_lit rfl rfl : Neat "-" []).append (neat_toString (m + 1)).turns

theorem neat_styledText (style : NumberStyle) (n : Int64) : Neat (style.wordText n) [] := by
  cases style with
  | integer => exact neat_wordText n
  | float => exact (neat_wordText n).append_lit rfl

theorem Literal.neat_text (literal : Literal) : Neat literal.text [] := by
  cases literal with
  | whole style value => exact neat_styledText style value
  | quotient num den =>
      have opening : Neat "(" [')'] := neat_lit rfl rfl
      have slash : Balanced "/" := turns_lit rfl
      exact (((opening.append ((neat_styledText .float num).turns.inside _)).append
        (slash.inside _)).append ((neat_styledText .float den).turns.inside _)).append_lit rfl

namespace SignedTerm

variable {term : SignedTerm} {terms : List SignedTerm}

theorem neat_body (neat : Neat term.name []) : Neat (term.factorText ++ term.name) [] := by
  unfold factorText
  cases term.factor with
  | none => simpa using neat
  | some literal => exact (literal.neat_text.append_lit rfl).append neat.turns

theorem neat_text (first : Bool) (neat : Neat term.name []) : Neat (term.text first) [] := by
  have body := neat_body neat
  unfold text
  rw [String.append_assoc]
  unfold signText
  split
  · exact (neat_lit rfl rfl : Neat "-" []).append body.turns
  · split
    · simpa using body
    · exact (neat_lit rfl rfl : Neat "+" []).append body.turns

theorem neat_rowText (nonempty : terms ≠ []) (neat : ∀ term ∈ terms, Neat term.name []) :
    Neat (rowText terms) [] := by
  have followers (rest : List SignedTerm) (neat : ∀ term ∈ rest, Neat term.name []) :
      Balanced (String.join (rest.map (text false))) := by
    induction rest with
    | nil => exact fun due => rfl
    | cons term rest ih =>
        obtain ⟨here, later⟩ := List.forall_mem_cons.mp neat
        rw [List.map_cons, String.join_cons]
        exact (neat_text false here).turns.append (ih later)
  cases terms with
  | nil => exact absurd rfl nonempty
  | cons first rest =>
      obtain ⟨here, later⟩ := List.forall_mem_cons.mp neat
      exact (neat_text true here).append (followers rest later)

end SignedTerm

theorem Formula.neat_text {formula : Formula} (nonempty : formula ≠ .zero → formula.terms ≠ [])
    (neat : ∀ term ∈ formula.terms, Neat term.name []) : Neat formula.text [] := by
  cases formula with
  | zero => exact neat_lit rfl rfl
  | sum terms => exact SignedTerm.neat_rowText (nonempty (by simp)) neat
  | divided terms divisor =>
      have row := SignedTerm.neat_rowText (nonempty (by simp)) neat
      have opening : Neat "(" [')'] := neat_lit rfl rfl
      exact ((opening.append (row.turns.inside _)).append_lit rfl).append
        divisor.neat_text.turns
  | multiplied factor terms =>
      have row := SignedTerm.neat_rowText (nonempty (by simp)) neat
      have opening : Neat (factor.text ++ "*(") [')'] :=
        factor.neat_text.append_lit rfl
      exact (opening.append (row.turns.inside _)).append_lit rfl

namespace PointFormulas

variable {m : SquareMatrix} {names : List String}

theorem neat_formulas {style : NumberStyle} {formulas : List Formula}
    (neat : ∀ name ∈ names, Neat name []) (written : m.formulas names style = .ok formulas) :
    ∀ formula ∈ formulas, Neat formula.text [] := by
  intro formula member
  obtain ⟨row, -, result⟩ := exists_of_forall₂_of_mem (Checked.mapM_eq_ok_iff.mp written) member
  exact Formula.neat_text (LinearSum.terms_ne_nil_of_formula result) fun term inside =>
    neat _ (SquareMatrix.name_mem_of_formulas written member inside)

theorem mem_of_usedNames {pattern : List (Option String)} (used : usedNames m names = .ok pattern)
    {name : String} (member : some name ∈ pattern) : name ∈ names := by
  obtain ⟨entry, listed, result⟩ := exists_of_forall₂_of_mem (Checked.mapM_eq_ok_iff.mp used) member
  obtain ⟨present, -, chosen⟩ := Checked.bind_eq_ok_iff.mp result
  cases present with
  | false => cases chosen
  | true =>
      cases chosen
      exact (List.mem_zipIdx' listed).2 ▸ List.getElem_mem _

theorem tidy_ofMatrix {p : PointFormulas} (neat : ∀ name ∈ names, Neat name [])
    (written : ofMatrix m names = .ok p) : p.Tidy := by
  obtain ⟨used, result⟩ := parts_of_ofMatrix written
  refine ⟨?_, neat_formulas neat result⟩
  rintro entry listed name rfl
  exact (neat name (mem_of_usedNames used listed)).turns

end PointFormulas

namespace Blueprint

variable {catalog : Catalog} {f : Family} {d : Dimension} {b : Blueprint} {dimension : Nat}

theorem Describes.points_ne_nil (describes : b.Describes catalog f dimension)
    (fits : f.WellFormed) : b.points ≠ [] := by
  have count : b.pointNames.length = f.degree + 1 := by
    rw [describes.pointNames fits, fits.name_count]
  intro none
  rw [Blueprint.pointNames, none] at count
  cases count

theorem Describes.tidy (describes : b.Describes catalog f dimension) (fits : f.WellFormed)
    (catalogIds : ∀ g ∈ catalog.families, BracketFree g.id) (id : IsPlainName f.id)
    (display : BracketFree f.display) (names : ∀ name ∈ f.pointNames, IsPlainName name)
    (descriptions : ∀ text ∈ f.pointDescriptions, Balanced text) : b.Tidy := by
  have neat : ∀ name ∈ f.pointNames, Neat name [] := fun name member => (names name member).neat
  have degreeWords : ∀ word ∈ ["linear", "quadratic", "cubic", "quartic", "quintic"],
      BracketFree word := by decide
  refine { name := Family.neat_typeName id describes.typeName, degreeWord := ?_, displayWord := ?_,
           nonempty := describes.points_ne_nil fits, points := ?_,
           curve := PointFormulas.tidy_ofMatrix neat describes.curve, spherical := ?_,
           castTarget := ?_, conversions := ?_ }
  · exact (degreeWords _ describes.degreeWord_mem).balanced
  · rw [describes.displayWord]
    exact (bracketFree_lowercase display).balanced
  · intro p member
    obtain ⟨named, described⟩ := describes.mem_of_mem_points member
    exact ⟨neat _ named, descriptions _ described⟩
  · intro ends chosen
    obtain ⟨first, last⟩ := describes.mem_of_mem_spherical chosen
    exact ⟨neat _ first, neat _ last⟩
  · intro target chosen
    obtain ⟨other, named⟩ := describes.exists_typeName_of_mem_castTarget chosen
    exact (Family.bracketFree_typeName id.1 named).balanced
  · intro c member
    obtain ⟨target, listed, converted⟩ := describes.exists_target member
    obtain ⟨named, matrix, -, written⟩ := parts_of_conversionTo converted
    have free := catalogIds target (mem_conversionTargets_iff.mp listed).1
    exact ⟨(Family.bracketFree_typeName free named).balanced,
      PointFormulas.tidy_ofMatrix neat written⟩

end Blueprint

variable {catalog : Catalog} {f : Family} {dimension : Nat} {document : Document}

/-- A generated document matches its brackets by kind, and each of its lines is indented by the
brackets that are due before it. A description of a point may have brackets if these match. -/
theorem generateType_balanced (catalogIds : ∀ g ∈ catalog.families, BracketFree g.id)
    (id : IsPlainName f.id) (display : BracketFree f.display)
    (names : ∀ name ∈ f.pointNames, IsPlainName name)
    (descriptions : ∀ text ∈ f.pointDescriptions, Balanced text)
    (generated : (generateType catalog f dimension).run = .ok (.ok document)) :
    readLines [] document.lines = some [] ∧
    ∀ before line after, document.lines = before ++ line :: after →
      ∃ due, readLines [] before = some due ∧
        (line ≠ "" → blanks line = 4 * (due.length - if startsClosing line then 1 else 0)) := by
  obtain ⟨b, describes, fits, rfl⟩ := describes_of_generateType generated
  have tidy := describes.tidy fits catalogIds id display names descriptions
  have flows : Flows [] b.document.lines [] := tidy.steady_source.flows_lines
  refine ⟨flows.readLines, ?_⟩
  intro before line after split
  rw [split] at flows
  exact flows.aligned

/-- The document of the Hermite curve in the plane. -/
theorem generateType_balanced_hermite :
    ∃ document, (generateType Catalog.standard Catalog.hermite 2).run = .ok (.ok document) ∧
      readLines [] document.lines = some [] ∧
      ∀ before line after, document.lines = before ++ line :: after →
        ∃ due, readLines [] before = some due ∧
          (line ≠ "" → blanks line = 4 * (due.length - if startsClosing line then 1 else 0)) := by
  have generated := Generation.exists_value_of_isSome
    (x := generateType Catalog.standard Catalog.hermite 2) (by decide +kernel)
  obtain ⟨document, answer⟩ := generated
  have identifiers : ∀ name ∈ Catalog.hermite.pointNames, Reading.isIdentifier name = true := by
    decide +kernel
  exact ⟨document, answer, generateType_balanced (by decide +kernel) (by decide +kernel)
    (by decide +kernel) (fun name member => isPlainName_of_isIdentifier (identifiers name member))
    (by decide +kernel) answer⟩

end CurveForge
