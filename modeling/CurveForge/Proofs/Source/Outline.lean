import Mathlib
import CurveForge.Proofs.Source.Lines

/-!
# The outermost lines of a source tree

Whatever stands inside a block is indented. The lines that start with a text which
is not indented itself can therefore be told from the outermost pieces of a tree.
-/

namespace CurveForge.Source

def startsWith (start line : String) : Bool := start.toList.isPrefixOf line.toList

def startingWith (start : String) (lines : List String) : List String :=
  lines.filter (startsWith start)

def outline (start : String) (source : Source) : List String :=
  startingWith start (source.linesAt 0)

theorem startingWith_append (start : String) (first second : List String) :
    startingWith start (first ++ second) = startingWith start first ++ startingWith start second :=
  List.filter_append ..

theorem startingWith_flatMap {α : Type} (start : String) (items : List α)
    (lines : α → List String) : startingWith start (items.flatMap lines) =
      items.flatMap fun item => startingWith start (lines item) :=
  List.filter_flatMap

/-- Whether two texts differ at a place that both of them have. -/
def differ : List Char → List Char → Bool
  | c :: rest, d :: others => c != d || differ rest others
  | _, _ => false

theorem isPrefixOf_of_differ {start fixed : List Char} (different : differ start fixed = true)
    (rest : List Char) : start.isPrefixOf (fixed ++ rest) = false := by
  induction start generalizing fixed with
  | nil => cases different
  | cons c start ih =>
      cases fixed with
      | nil => cases different
      | cons d fixed =>
          simp only [differ, Bool.or_eq_true, bne_iff_ne] at different
          simp only [List.cons_append, List.isPrefixOf_cons_cons, Bool.and_eq_false_iff,
            beq_eq_false_iff_ne]
          exact different.imp id ih

/-- No line that starts with the one text starts with the other one. -/
def Apart (start fixed : String) : Prop := differ start.toList fixed.toList = true

instance (start fixed : String) : Decidable (Apart start fixed) :=
  inferInstanceAs (Decidable (_ = true))

variable {start fixed : String}

theorem Apart.startsWith_append (apart : Apart start fixed) (rest : String) :
    startsWith start (fixed ++ rest) = false := by
  rw [startsWith, String.toList_append]
  exact isPrefixOf_of_differ apart rest.toList

theorem Apart.append (apart : Apart start fixed) (rest : String) : Apart start (fixed ++ rest) := by
  rw [Apart, String.toList_append]
  unfold Apart at apart
  generalize start.toList = chars at apart ⊢
  generalize fixed.toList = others at apart ⊢
  induction chars generalizing others with
  | nil => cases apart
  | cons c chars ih =>
      cases others with
      | nil => cases apart
      | cons d others =>
          simp only [List.cons_append, differ, Bool.or_eq_true] at apart ⊢
          exact apart.imp_right (ih others)

theorem Apart.prepend (apart : Apart start fixed) (front : String) :
    Apart (front ++ start) (front ++ fixed) := by
  rw [Apart, String.toList_append, String.toList_append]
  induction front.toList with
  | nil => exact apart
  | cons c chars ih => simp [differ, ih]

/-- Words that end with a break, and different texts from there on. The induction is on both words:
the first character in which they differ may be the break behind the shorter one. -/
theorem differ_of_words {isBreak : Char → Bool} {word name more behind : List Char} {c d : Char}
    (wordPlain : ∀ x ∈ word, isBreak x = false) (namePlain : ∀ x ∈ name, isBreak x = false)
    (first : isBreak c = true) (second : isBreak d = true)
    (different : differ (c :: more) (d :: behind) = true) :
    differ (word ++ c :: more) (name ++ d :: behind) = true := by
  have apart {x y : Char} (plain : isBreak x = false) (breaks : isBreak y = true) : x ≠ y := by
    rintro rfl
    cases plain.symm.trans breaks
  induction word generalizing name with
  | nil =>
      cases name with
      | nil => exact different
      | cons y name =>
          have other := (apart (namePlain y List.mem_cons_self) first).symm
          simp [differ, other]
  | cons x word ih =>
      cases name with
      | nil =>
          have other := apart (wordPlain x List.mem_cons_self) second
          simp [differ, other]
      | cons y name =>
          obtain ⟨-, wordRest⟩ := List.forall_mem_cons.mp wordPlain
          obtain ⟨-, nameRest⟩ := List.forall_mem_cons.mp namePlain
          simp [differ, ih wordRest nameRest]

theorem startsWith_append_self (start rest : String) : startsWith start (start ++ rest) = true := by
  rw [startsWith, String.toList_append, List.isPrefixOf_iff_prefix]
  exact List.prefix_append _ _

@[simp]
theorem outline_concat (start : String) (pieces : List Source) :
    outline start (concat pieces) = pieces.flatMap (outline start) := by
  rw [outline, linesAt_concat, startingWith_flatMap]
  rfl

@[simp]
theorem outline_nothing (start : String) : outline start nothing = [] := rfl

@[simp]
theorem outline_line (start text : String) :
    outline start (line text) = startingWith start [text] := by
  rw [outline, linesAt, Writer.indentation_zero, String.empty_append]

theorem outline_ofLines (start : String) (texts : List String) :
    outline start (ofLines texts) = startingWith start texts := by
  rw [outline, linesAt_ofLines]
  simp

theorem startingWith_append_of_apart (apart : Apart start fixed) (rest : String) :
    startingWith start [fixed ++ rest] = [] :=
  List.filter_cons_of_neg (Bool.eq_false_iff.mp (apart.startsWith_append rest))

theorem outline_line_of_apart (apart : Apart start fixed) : outline start (line fixed) = [] := by
  have absent := startingWith_append_of_apart apart ""
  rwa [String.append_empty, ← outline_line] at absent

def Flush (start : String) : Prop :=
  ∃ c rest, start.toList = c :: rest ∧ c ≠ ' ' ∧ c ≠ '\x7d'

theorem Flush.outline_blank (flush : Flush start) : outline start blank = [] := by
  obtain ⟨c, rest, spelled, -⟩ := flush
  simp [outline, startingWith, linesAt, Source.startsWith, spelled]

/-- No indented line starts with a text that is not indented. -/
theorem Flush.startsWith_indented (flush : Flush start) (level : Nat) (text : String) :
    startsWith start (Writer.indentation (level + 1) ++ text) = false := by
  obtain ⟨c, rest, spelled, notBlank, -⟩ := flush
  have blanks : 4 * (level + 1) = 4 * level + 3 + 1 := by omega
  rw [Source.startsWith, String.toList_append, Writer.indentation, String.toList_ofList, blanks,
    List.replicate_succ, spelled, List.cons_append, List.isPrefixOf_cons_cons]
  simp [notBlank]

/-- The induction is on the tree; only empty lines inside a block are not indented. -/
theorem Flush.startingWith_inside (flush : Flush start) (source : Source) (level : Nat) :
    startingWith start (source.linesAt (level + 1)) = [] := by
  have indented := flush.startsWith_indented
  have empty : Source.startsWith start "" = false := by
    obtain ⟨c, rest, spelled, -⟩ := flush
    simp [Source.startsWith, spelled]
  induction source generalizing level with
  | nothing => rfl
  | line text => simp [linesAt, startingWith, indented]
  | blank => simp [linesAt, startingWith, empty]
  | both first second firstIh secondIh =>
      rw [linesAt, startingWith_append, firstIh, secondIh, List.append_nil]
  | enclosed guard header body ih =>
      have inner : startingWith start (body.linesAt (guard.inner (level + 1))) = [] := by
        cases guard with
        | block => exact ih (level + 1)
        | scope => exact ih (level + 1)
        | region => exact ih level
      rw [linesAt, startingWith_append, startingWith_append, inner]
      cases guard with
      | block => simp [startingWith, Guard.opening, Guard.closing, indented]
      | scope => simp [startingWith, Guard.opening, Guard.closing, indented]
      | region => simp [startingWith, Guard.opening, Guard.closing, indented, empty]

theorem Flush.startingWith_closing (flush : Flush start) : startingWith start ["\x7d"] = [] := by
  obtain ⟨c, rest, spelled, -, notBrace⟩ := flush
  simp [startingWith, Source.startsWith, spelled, notBrace]

/-- Of a block, only the header can be found. -/
theorem Flush.outline_block (flush : Flush start) (header : String) (body : Source) :
    outline start (block header body) = startingWith start [header ++ " \x7b"] := by
  have inside : startingWith start (body.linesAt 1) = [] := flush.startingWith_inside body 0
  rw [outline, linesAt_block, Writer.indentation_zero, String.empty_append, String.empty_append,
    startingWith_append, startingWith_append, inside, flush.startingWith_closing, List.append_nil,
    List.append_nil]

theorem Flush.outline_block_of_apart (flush : Flush start) (apart : Apart start fixed)
    (body : Source) : outline start (block fixed body) = [] := by
  rw [flush.outline_block]
  exact startingWith_append_of_apart apart _

/-- A text that starts no indented line, no end of a block, no comment and no attribute. -/
def Opens (start : String) : Prop :=
  ∃ c rest, start.toList = c :: rest ∧ c ∉ [' ', '\x7d', '/', '#']

namespace Opens

theorem flush (opens : Opens start) : Flush start := by
  obtain ⟨c, rest, spelled, other⟩ := opens
  exact ⟨c, rest, spelled, fun blank => other (by simp [blank]), fun brace => other (by simp [brace])⟩

theorem apart (opens : Opens start) {c : Char} {rest : List Char}
    (spelled : fixed.toList = c :: rest) (aside : c ∈ [' ', '\x7d', '/', '#']) :
    Apart start fixed := by
  obtain ⟨d, others, first, other⟩ := opens
  have different : d ≠ c := fun same => other (same ▸ aside)
  rw [Apart, first, spelled, differ, Bool.or_eq_true]
  exact .inl (bne_iff_ne.mpr different)

theorem startingWith_comment (opens : Opens start) (text : String) :
    startingWith start ["//" ++ text] = [] :=
  startingWith_append_of_apart (opens.apart rfl (by decide)) text

theorem outline_doc (opens : Opens start) (text : String) : outline start (doc text) = [] := by
  have slashes : docText text = "//" ++ ("/ " ++ text) := by
    rw [← String.append_assoc]
    rfl
  rw [doc, outline_line, slashes, opens.startingWith_comment]

theorem outline_comment (opens : Opens start) (text : String) :
    outline start (comment text) = [] := by
  have slashes : commentText text = "//" ++ (" " ++ text) := by
    rw [← String.append_assoc]
    rfl
  rw [comment, outline_line, slashes, opens.startingWith_comment]

theorem outline_marked (opens : Opens start) (text : String) : outline start (marked text) = [] := by
  rw [marked, outline_line, attributeText, String.append_assoc]
  exact startingWith_append_of_apart (opens.apart rfl (by decide)) _

end Opens

end CurveForge.Source
