import Mathlib
import CurveForge.Document.Basic
import CurveForge.Proofs.Source.Lines
import CurveForge.Source.Basic

/-!
# Line breaks in source text

A tree whose texts have no line breaks has no line with one. Such lines can be told
from the text of a document: each ends at a line break, and there are no others.
-/

namespace CurveForge

/-- A text without line breaks. -/
def OneLine (text : String) : Prop := '\n' ∉ text.toList

instance (text : String) : Decidable (OneLine text) :=
  inferInstanceAs (Decidable ('\n' ∉ text.toList))

namespace OneLine

variable {first second inner separator text : String} {items : List String}

theorem lit {chars : List Char} (kept : chars.contains '\n' = false) :
    OneLine (String.ofList chars) := by
  simpa [OneLine] using kept

/-- The rule for fixed texts, of which a discharger sees that they have no line breaks. -/
@[simp low]
theorem iff_true (one : OneLine text) : OneLine text ↔ True := iff_true_intro one

@[simp]
theorem append_iff : OneLine (first ++ second) ↔ OneLine first ∧ OneLine second := by
  simp [OneLine]

theorem of_isAlphanum (plain : ∀ c ∈ text.toList, c.isAlphanum = true) : OneLine text := by
  intro member
  cases plain '\n' member

@[simp]
theorem repr_nat (n : Nat) : OneLine n.repr := by
  refine of_isAlphanum fun c member => ?_
  rw [Nat.toList_repr] at member
  simp [Char.isAlphanum, Nat.isDigit_of_mem_toDigits (by decide) (by decide) member]

theorem intercalate_iff (one : OneLine separator) :
    OneLine (separator.intercalate items) ↔ ∀ item ∈ items, OneLine item := by
  induction items with
  | nil => simp (disch := exact OneLine.lit rfl)
  | cons item rest ih =>
      cases rest with
      | nil => simp
      | cons next others =>
          rw [String.intercalate_cons_cons, append_iff, append_iff, ih, List.forall_mem_cons]
          simp [one]

@[simp]
theorem join_iff : OneLine (String.join items) ↔ ∀ item ∈ items, OneLine item := by
  induction items with
  | nil => simp (disch := exact OneLine.lit rfl)
  | cons item rest ih => rw [String.join_cons, append_iff, ih, List.forall_mem_cons]

open Phrase

@[simp]
theorem commas_iff : OneLine (commas items) ↔ ∀ item ∈ items, OneLine item :=
  intercalate_iff (lit rfl)

@[simp]
theorem parens_iff : OneLine (parens inner) ↔ OneLine inner := by
  simp (disch := exact OneLine.lit rfl) [parens]

@[simp]
theorem brackets_iff : OneLine (brackets inner) ↔ OneLine inner := by
  simp (disch := exact OneLine.lit rfl) [brackets]

@[simp]
theorem braces_iff : OneLine (braces inner) ↔ OneLine inner := by
  simp (disch := exact OneLine.lit rfl) [braces]

@[simp]
theorem commaEnded_iff :
    (∀ text ∈ commaEnded items, OneLine text) ↔ ∀ item ∈ items, OneLine item := by
  fun_induction commaEnded items with
  | case1 => rfl
  | case2 last => rfl
  | case3 item rest nonempty ih =>
      rw [List.forall_mem_cons, List.forall_mem_cons, ih]
      simp (disch := exact OneLine.lit rfl)

@[simp]
theorem indentation (level : Nat) : OneLine (Writer.indentation level) := by
  simp [OneLine, Writer.indentation]

end OneLine

namespace Source

@[simp]
def SingleLined : Source → Prop
  | nothing => True
  | line text => OneLine text
  | blank => True
  | both first second => first.SingleLined ∧ second.SingleLined
  | enclosed _ header body => OneLine header ∧ body.SingleLined

variable {source body : Source} {pieces : List Source} {texts : List String} {condition : Bool}
  {header label text : String}

/-- The induction is on the tree; what opens and closes a guard has its header and nothing else
that could break a line. -/
theorem SingleLined.oneLine_of_mem_linesAt {level : Nat} (single : source.SingleLined)
    (member : text ∈ source.linesAt level) : OneLine text := by
  induction source generalizing level with
  | nothing => cases member
  | line own =>
      rw [List.mem_singleton.mp member]
      simpa using single
  | blank =>
      rw [List.mem_singleton.mp member]
      exact .lit rfl
  | both first second firstIh secondIh =>
      exact (List.mem_append.mp member).elim (firstIh single.1) (secondIh single.2)
  | enclosed guard header body ih =>
      have opened : ∀ line ∈ guard.opening level header, OneLine line := by
        cases guard <;> simp (disch := exact OneLine.lit rfl) [Guard.opening, single.1]
      have closed : ∀ line ∈ guard.closing level, OneLine line := by
        cases guard <;> simp (disch := exact OneLine.lit rfl) [Guard.closing]
      simp only [linesAt, List.mem_append] at member
      rcases member with (opening | inside) | closing
      · exact opened text opening
      · exact ih single.2 inside
      · exact closed text closing

theorem SingleLined.oneLine_of_mem_lines (single : source.SingleLined)
    (member : text ∈ source.lines) : OneLine text :=
  single.oneLine_of_mem_linesAt (lines_eq_linesAt source ▸ member)

@[simp]
theorem singleLined_append {first second : Source} :
    (first ++ second).SingleLined ↔ first.SingleLined ∧ second.SingleLined := Iff.rfl

@[simp]
theorem singleLined_concat :
    (concat pieces).SingleLined ↔ ∀ piece ∈ pieces, piece.SingleLined := by
  induction pieces with
  | nil => simp [concat]
  | cons piece rest ih => rw [concat, SingleLined, ih, List.forall_mem_cons]

@[simp low]
theorem singleLined_ofLines : (ofLines texts).SingleLined ↔ ∀ text ∈ texts, OneLine text := by
  simp [ofLines]

@[simp]
theorem singleLined_ofLines_map {α : Type} {items : List α} {text : α → String} :
    (ofLines (items.map text)).SingleLined ↔ ∀ item ∈ items, OneLine (text item) := by
  rw [singleLined_ofLines, List.forall_mem_map]

@[simp]
theorem singleLined_onlyIf :
    (onlyIf condition source).SingleLined ↔ (condition = true → source.SingleLined) := by
  cases condition <;> simp [onlyIf]

@[simp]
theorem singleLined_block :
    (block header body).SingleLined ↔ OneLine header ∧ body.SingleLined := Iff.rfl

@[simp]
theorem singleLined_scope :
    (scope header body).SingleLined ↔ OneLine header ∧ body.SingleLined := Iff.rfl

@[simp]
theorem singleLined_region :
    (region label body).SingleLined ↔ OneLine label ∧ body.SingleLined := Iff.rfl

@[simp]
theorem singleLined_doc : (doc text).SingleLined ↔ OneLine text := by
  simp (disch := exact OneLine.lit rfl) [doc, docText]

@[simp]
theorem singleLined_comment : (comment text).SingleLined ↔ OneLine text := by
  simp (disch := exact OneLine.lit rfl) [comment, commentText]

@[simp]
theorem singleLined_marked : (marked text).SingleLined ↔ OneLine text := by
  simp (disch := exact OneLine.lit rfl) [marked, attributeText]

end Source

/-- The pieces of a text, each up to a line break and with it. -/
def brokenPieces (text : String) : List String :=
  (text.toList.splitBy fun c _ => c != '\n').map String.ofList

/-- A line and its break are the first piece of a text that starts with them. -/
theorem splitBy_line {line : List Char} (one : '\n' ∉ line) (rest : List Char) :
    (line ++ ['\n'] ++ rest).splitBy (fun c _ => c != '\n') =
      (line ++ ['\n']) :: rest.splitBy fun c _ => c != '\n' := by
  have linked : (line ++ ['\n']).IsChain fun c _ => (c != '\n') = true := by
    refine List.isChain_append.mpr ⟨?_, List.isChain_singleton _, ?_⟩
    · refine List.Pairwise.isChain (List.pairwise_of_forall_mem_list fun c member _ _ => ?_)
      exact bne_iff_ne.mpr fun same => one (same ▸ member)
    · intro c last _ _
      exact bne_iff_ne.mpr fun same => one (same ▸ List.mem_of_mem_getLast? last)
  rw [List.splitBy_append, List.splitBy_of_isChain (by simp) linked, List.singleton_append]
  intro c last _ _
  rw [List.getLast?_concat] at last
  cases last
  rfl

namespace Document

variable {d : Document}

/-- Every line of a document that has lines ends at a line break. -/
theorem toList_text (nonempty : d.lines ≠ []) :
    d.text.toList = d.lines.flatMap fun line => line.toList ++ ['\n'] := by
  have joined (lines : List String) (nonempty : lines ≠ []) :
      ("\n".intercalate lines ++ "\n").toList =
        lines.flatMap fun line => line.toList ++ ['\n'] := by
    induction lines with
    | nil => exact absurd rfl nonempty
    | cons line rest ih =>
        cases rest with
        | nil => simp
        | cons next others =>
            rw [String.intercalate_cons_cons, String.append_assoc, String.toList_append,
              String.toList_append, ih (List.cons_ne_nil _ _), List.flatMap_cons]
            rfl
  exact joined d.lines nonempty

theorem getLast?_text (d : Document) : d.text.toList.getLast? = some '\n' := by
  simp [text]

/-- There is a line break behind every line, besides those in the lines. -/
theorem count_text (nonempty : d.lines ≠ []) :
    d.text.toList.count '\n' = d.lines.length + (d.lines.map (·.toList.count '\n')).sum := by
  rw [toList_text nonempty, List.count_flatMap]
  induction d.lines with
  | nil => rfl
  | cons line rest ih =>
      simp only [List.map_cons, List.sum_cons, Function.comp_apply, ih, List.count_append,
        List.count_singleton_self, List.length_cons]
      omega

/-- A line with a line break in it is more than one line of the text. -/
theorem length_lt_count_text (d : Document) {line : String} (member : line ∈ d.lines)
    (broken : '\n' ∈ line.toList) : d.lines.length < d.text.toList.count '\n' := by
  have some : 0 < line.toList.count '\n' := List.count_pos_iff.mpr broken
  have all := List.single_le_sum (fun n _ => n.zero_le) _
    (List.mem_map_of_mem (f := fun line : String => line.toList.count '\n') member)
  rw [count_text (List.ne_nil_of_mem member)]
  omega

variable (nonempty : d.lines ≠ []) (each : ∀ line ∈ d.lines, OneLine line)
include nonempty each

/-- There are as many line breaks as lines. -/
theorem count_text_of_oneLine : d.text.toList.count '\n' = d.lines.length := by
  have none : ∀ count ∈ d.lines.map (·.toList.count '\n'), count = 0 :=
    List.forall_mem_map.mpr fun line member => List.count_eq_zero.mpr (each line member)
  rw [count_text nonempty, List.sum_eq_zero none, Nat.add_zero]

/-- The pieces of the text are the lines with their breaks. -/
theorem brokenPieces_text : brokenPieces d.text = d.lines.map (· ++ "\n") := by
  have read (lines : List String) (each : ∀ line ∈ lines, OneLine line) :
      (lines.flatMap fun line => line.toList ++ ['\n']).splitBy (fun c _ => c != '\n') =
        lines.map fun line => line.toList ++ ['\n'] := by
    induction lines with
    | nil => rfl
    | cons line rest ih =>
        obtain ⟨here, later⟩ := List.forall_mem_cons.mp each
        rw [List.flatMap_cons, splitBy_line here, ih later, List.map_cons]
  rw [brokenPieces, toList_text nonempty, read d.lines each, List.map_map]
  refine List.map_congr_left fun line _ => ?_
  simp [String.ofList_append]

end Document

end CurveForge
