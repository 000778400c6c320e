import Mathlib
import CurveForge.Source.Basic
import CurveForge.Source.Session

/-!
# The lines of a source tree

What a writer adds for a tree depends only on its level, and in the end the level
is the same as before. The lines of a tree can therefore be told from its parts.
-/

namespace CurveForge

/-- What is kept by putting texts together holds of texts with separators between them. -/
theorem holds_intercalate {holds : String → Prop} {separator : String} {items : List String}
    (empty : holds "")
    (append : ∀ {first second}, holds first → holds second → holds (first ++ second))
    (between : holds separator) (each : ∀ item ∈ items, holds item) :
    holds (separator.intercalate items) := by
  induction items with
  | nil => exact empty
  | cons item rest ih =>
      obtain ⟨here, later⟩ := List.forall_mem_cons.mp each
      cases rest with
      | nil => simpa using here
      | cons next others =>
          rw [String.intercalate_cons_cons]
          exact append (append here between) (ih later)

namespace Phrase

theorem mem_commaEnded {items : List String} {text : String} (member : text ∈ commaEnded items) :
    ∃ item ∈ items, item = text ∨ item ++ "," = text := by
  fun_induction commaEnded items with
  | case1 => cases member
  | case2 last => exact ⟨last, List.mem_cons_self, .inl (List.mem_singleton.mp member).symm⟩
  | case3 item rest nonempty ih =>
      rcases List.mem_cons.mp member with here | later
      · exact ⟨item, List.mem_cons_self, .inr here.symm⟩
      · obtain ⟨other, listed, spelled⟩ := ih later
        exact ⟨other, List.mem_cons_of_mem _ listed, spelled⟩

end Phrase

namespace Guard

def inner (guard : Guard) (level : Nat) : Nat := if guard.indents then level + 1 else level

def opening (level : Nat) (header : String) : Guard → List String
  | block => [Writer.indentation level ++ (header ++ " \x7b")]
  | scope => [Writer.indentation level ++ header]
  | region => [Writer.indentation level ++ ("// region: " ++ header), ""]

def closing (level : Nat) : Guard → List String
  | block => [Writer.indentation level ++ "\x7d"]
  | scope => []
  | region => ["", Writer.indentation level ++ "// endregion"]

end Guard

namespace Source

def linesAt (level : Nat) : Source → List String
  | nothing => []
  | line text => [Writer.indentation level ++ text]
  | blank => [""]
  | both first second => first.linesAt level ++ second.linesAt level
  | enclosed guard header body =>
      guard.opening level header ++ body.linesAt (guard.inner level) ++ guard.closing level

end Source

namespace Writer

@[simp]
theorem indentation_zero : indentation 0 = "" := rfl

theorem indentation_add (first second : Nat) :
    indentation (first + second) = indentation first ++ indentation second := by
  rw [indentation, indentation, indentation, Nat.mul_add, List.replicate_add, String.ofList_append]

theorem indentation_succ (level : Nat) :
    indentation (level + 1) = indentation level ++ "    " := indentation_add level 1

/-- A line is empty or starts at a level or deeper. -/
def Indented (level : Nat) (line : String) : Prop :=
  line = "" ∨ ∃ text, line = indentation level ++ text

theorem Indented.of_inner {guard : Guard} {level : Nat} {line : String}
    (indented : Indented (guard.inner level) line) : Indented level line := by
  rcases indented with rfl | ⟨text, rfl⟩
  · exact .inl rfl
  · cases guard with
    | region => exact .inr ⟨text, rfl⟩
    | _ =>
        refine .inr ⟨"    " ++ text, ?_⟩
        rw [← String.append_assoc, ← indentation_succ]
        rfl

theorem openGuard_eq (w : Writer) (guard : Guard) (header : String) :
    w.openGuard guard header =
      ⟨guard.inner w.level, w.lines ++ (guard.opening w.level header).toArray⟩ := by
  cases guard with
  | block => rfl
  | scope => rfl
  | region =>
      simp only [openGuard, line, blank, Guard.opening, Array.push_eq_append,
        Array.append_assoc]
      rfl

theorem closeGuard_eq (level : Nat) (lines : Array String) (guard : Guard) :
    closeGuard ⟨guard.inner level, lines⟩ guard =
      ⟨level, lines ++ (guard.closing level).toArray⟩ := by
  cases guard with
  | block => rfl
  | scope => simp [closeGuard, Guard.inner, Guard.indents, Guard.closing, dedent]
  | region =>
      simp only [closeGuard, line, blank, Guard.closing, Array.push_eq_append,
        Array.append_assoc]
      rfl

/-- Writing a tree adds its lines at the level of the writer. -/
theorem emit_eq (w : Writer) (source : Source) :
    w.emit source = ⟨w.level, w.lines ++ (source.linesAt w.level).toArray⟩ := by
  induction source generalizing w with
  | nothing => simp [emit, Source.linesAt]
  | line text => simp [emit, Source.linesAt, line]
  | blank => simp [emit, Source.linesAt, blank]
  | both first second firstIh secondIh =>
      rw [emit, firstIh, secondIh, Source.linesAt, ← List.append_toArray, Array.append_assoc]
  | enclosed guard header body ih =>
      rw [emit, openGuard_eq, ih, closeGuard_eq]
      simp only [Source.linesAt, Array.append_assoc, List.append_toArray, List.append_assoc]

end Writer

namespace Source

theorem lines_eq_linesAt (source : Source) : source.lines = source.linesAt 0 := by
  rw [lines, Writer.emit_eq]
  simp [Writer.empty]

@[simp]
theorem linesAt_concat (level : Nat) (pieces : List Source) :
    (concat pieces).linesAt level = pieces.flatMap (linesAt level) := by
  induction pieces with
  | nil => rfl
  | cons piece rest ih => rw [concat, linesAt, ih, List.flatMap_cons]

@[simp]
theorem linesAt_ofLines (level : Nat) (texts : List String) :
    (ofLines texts).linesAt level = texts.map (Writer.indentation level ++ ·) := by
  rw [ofLines, linesAt_concat, List.flatMap_map]
  exact List.map_eq_flatMap.symm

theorem linesAt_block (level : Nat) (header : String) (body : Source) :
    (block header body).linesAt level =
      [Writer.indentation level ++ (header ++ " \x7b")] ++ body.linesAt (level + 1) ++
        [Writer.indentation level ++ "\x7d"] := rfl

theorem infix_concat {piece : Source} {pieces : List Source} (member : piece ∈ pieces)
    (level : Nat) : piece.linesAt level <:+: (concat pieces).linesAt level := by
  rw [linesAt_concat, List.flatMap_def]
  exact List.infix_of_mem_flatten (List.mem_map_of_mem member)

theorem infix_enclosed (guard : Guard) (header : String) (body : Source) (level : Nat) :
    body.linesAt (guard.inner level) <:+: (enclosed guard header body).linesAt level :=
  ⟨guard.opening level header, guard.closing level, rfl⟩

/-- No line of a tree starts before the level of the tree. -/
theorem indented_of_mem_linesAt {source : Source} {level : Nat} {line : String}
    (member : line ∈ source.linesAt level) : Writer.Indented level line := by
  induction source generalizing level with
  | nothing => cases member
  | line text => exact .inr ⟨text, List.mem_singleton.mp member⟩
  | blank => exact .inl (List.mem_singleton.mp member)
  | both first second firstIh secondIh => exact (List.mem_append.mp member).elim firstIh secondIh
  | enclosed guard header body ih =>
      have opened : ∀ line ∈ guard.opening level header, Writer.Indented level line := by
        cases guard <;> simp [Guard.opening, Writer.Indented]
      have closed : ∀ line ∈ guard.closing level, Writer.Indented level line := by
        cases guard <;> simp [Guard.closing, Writer.Indented]
      simp only [linesAt, List.mem_append] at member
      rcases member with (opening | inside) | closing
      · exact opened line opening
      · exact (ih inside).of_inner
      · exact closed line closing

end Source

end CurveForge
