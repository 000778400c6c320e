import Mathlib
import CurveForge.Proofs.Source.Outline

/-!
# Blocks of written source

The blocks of a text can be read back from its lines alone: a block opens with a line
that starts in a known way and reaches to the next line that is a closing brace, and
what stands in between is indented by one level more. In the lines of a tree, exactly
the blocks of the tree are found this way.
-/

namespace CurveForge.Source

def inside (lines : List String) : List String :=
  lines.filterMap fun text =>
    if text = "" then some ""
    else if startsWith (Writer.indentation 1) text then some (String.ofList (text.toList.drop 4))
    else none

/-- The blocks whose first line starts with a text: this line and the lines inside, up to the next
closing brace. -/
def blocksOf (start : String) : List String → List (String × List String)
  | [] => []
  | first :: rest =>
      if startsWith start first then
        (first, inside (rest.takeWhile (· ≠ "\x7d"))) :: blocksOf start rest
      else blocksOf start rest

theorem inside_append (first second : List String) :
    inside (first ++ second) = inside first ++ inside second :=
  List.filterMap_append

/-- A line that is not indented is left out. -/
theorem inside_of_apart {fixed : String} (apart : Apart (Writer.indentation 1) fixed)
    (rest : String) : inside [fixed ++ rest] = [] := by
  have nonempty : fixed ++ rest ≠ "" := by
    intro empty
    have none : fixed = "" := (String.append_eq_empty_iff.mp empty).1
    subst none
    revert apart
    decide
  simp [inside, nonempty, apart.startsWith_append rest]

theorem inside_indented (level : Nat) (text : String) :
    inside [Writer.indentation (level + 1) ++ text] = [Writer.indentation level ++ text] := by
  have deeper : Writer.indentation (level + 1) ++ text =
      Writer.indentation 1 ++ (Writer.indentation level ++ text) := by
    rw [Nat.add_comm, Writer.indentation_add, String.append_assoc]
  have nonempty : Writer.indentation 1 ++ (Writer.indentation level ++ text) ≠ "" := by
    intro empty
    have blanks := (String.append_eq_empty_iff.mp empty).1
    revert blanks
    decide
  have width : (Writer.indentation 1).toList.length = 4 := rfl
  have cut : String.ofList ((Writer.indentation 1 ++ (Writer.indentation level ++ text)).toList.drop
      4) = Writer.indentation level ++ text := by
    rw [String.toList_append, ← width, List.drop_left, String.ofList_toList]
  simp only [inside, deeper, List.filterMap_cons, List.filterMap_nil, nonempty, if_false,
    startsWith_append_self, if_true, cut]

/-- The lines of a tree with one level less. -/
theorem inside_linesAt (source : Source) (level : Nat) :
    inside (source.linesAt (level + 1)) = source.linesAt level := by
  induction source generalizing level with
  | nothing => rfl
  | line text => exact inside_indented level text
  | blank => rfl
  | both first second firstIh secondIh => rw [linesAt, inside_append, firstIh, secondIh, linesAt]
  | enclosed guard header body ih =>
      have opening : inside (guard.opening (level + 1) header) = guard.opening level header := by
        cases guard with
        | block => exact inside_indented level _
        | scope => exact inside_indented level _
        | region => exact (inside_append [_] [""]).trans (congrArg (· ++ [""]) (inside_indented ..))
      have closing : inside (guard.closing (level + 1)) = guard.closing level := by
        cases guard with
        | block => exact inside_indented level _
        | scope => rfl
        | region => exact (inside_append [""] [_]).trans (congrArg ([""] ++ ·) (inside_indented ..))
      have body : inside (body.linesAt (guard.inner (level + 1))) =
          body.linesAt (guard.inner level) := by
        cases guard with
        | block => exact ih (level + 1)
        | scope => exact ih (level + 1)
        | region => exact ih level
      rw [linesAt, inside_append, inside_append, opening, body, closing, linesAt]

/-- Of a block at the outermost level, the body is left. -/
theorem inside_block {header : String} (apart : Apart (Writer.indentation 1) header)
    (body : Source) : inside ((block header body).linesAt 0) = body.linesAt 0 := by
  have closing : inside ["\x7d"] = [] := by decide
  rw [linesAt_block, Writer.indentation_zero, String.empty_append, String.empty_append,
    inside_append, inside_append, inside_of_apart apart, inside_linesAt, closing, List.nil_append,
    List.append_nil]

/-- The blocks of lines, whatever lines follow. -/
def Encloses (start : String) (lines : List String) (found : List (String × List String)) : Prop :=
  ∀ rest, blocksOf start (lines ++ rest) = found ++ blocksOf start rest

variable {start : String}

theorem Encloses.blocksOf_eq {lines : List String} {found : List (String × List String)}
    (encloses : Encloses start lines found) : blocksOf start lines = found := by
  have alone := encloses []
  rwa [List.append_nil, blocksOf, List.append_nil] at alone

theorem Encloses.append {first second : List String} {found others : List (String × List String)}
    (encloses : Encloses start first found) (later : Encloses start second others) :
    Encloses start (first ++ second) (found ++ others) := by
  intro rest
  rw [List.append_assoc, encloses, later, List.append_assoc]

/-- No block is found where no line starts with the text. -/
theorem encloses_of_absent {lines : List String} (absent : startingWith start lines = []) :
    Encloses start lines [] := by
  intro rest
  induction lines with
  | nil => rfl
  | cons first lines ih =>
      have none := List.filter_eq_nil_iff.mp absent
      obtain ⟨here, later⟩ := List.forall_mem_cons.mp none
      rw [List.cons_append, blocksOf, if_neg here]
      exact ih (List.filter_eq_nil_iff.mpr later)

/-- The blocks of pieces are those of the first one and those of the others. -/
theorem encloses_cons {piece : Source} {pieces : List Source}
    {found others : List (String × List String)} (here : Encloses start (piece.linesAt 0) found)
    (later : Encloses start ((concat pieces).linesAt 0) others) :
    Encloses start ((concat (piece :: pieces)).linesAt 0) (found ++ others) :=
  here.append later

theorem encloses_skip {piece : Source} {pieces : List Source} {found : List (String × List String)}
    (absent : outline start piece = [])
    (later : Encloses start ((concat pieces).linesAt 0) found) :
    Encloses start ((concat (piece :: pieces)).linesAt 0) found :=
  encloses_cons (encloses_of_absent absent) later

theorem encloses_first {piece : Source} {pieces : List Source} {found : List (String × List String)}
    (here : Encloses start (piece.linesAt 0) found) (absent : outline start (concat pieces) = []) :
    Encloses start ((concat (piece :: pieces)).linesAt 0) found := by
  have whole := encloses_cons here (encloses_of_absent absent)
  rwa [List.append_nil] at whole

/-- The blocks of a region are those of its body. -/
theorem encloses_region (opens : Opens start) (label : String) {body : Source}
    {found : List (String × List String)} (encloses : Encloses start (body.linesAt 0) found) :
    Encloses start ((region label body).linesAt 0) found := by
  have blank : startingWith start [""] = [] := opens.flush.outline_blank
  have opening : startingWith start (Guard.region.opening 0 label) = [] := by
    have marker : startingWith start ["// region: " ++ label] = [] :=
      startingWith_append_of_apart (opens.apart rfl (by decide)) label
    exact (startingWith_append start ["// region: " ++ label] [""]).trans (by rw [marker, blank]; rfl)
  have closing : startingWith start (Guard.region.closing 0) = [] := by
    have marker : startingWith start ["// endregion"] = [] := opens.startingWith_comment " endregion"
    exact (startingWith_append start [""] ["// endregion"]).trans (by rw [marker, blank]; rfl)
  have whole := ((encloses_of_absent opening).append encloses).append (encloses_of_absent closing)
  rwa [List.nil_append, List.append_nil] at whole

/-- Nothing is found inside lines that are not indented. -/
theorem encloses_inside_of_flush (flush : Flush start) {lines : List String}
    (unindented : startingWith (Writer.indentation 1) lines = []) :
    Encloses start (inside lines) [] := by
  apply encloses_of_absent
  apply List.filter_eq_nil_iff.mpr
  intro text member
  obtain ⟨line, listed, kept⟩ := List.mem_filterMap.mp member
  have none := List.filter_eq_nil_iff.mp unindented line listed
  have empty : text = "" := by
    rw [if_neg none] at kept
    split at kept
    · exact (Option.some.inj kept).symm
    · cases kept
  have blank := List.filter_eq_nil_iff.mp flush.outline_blank "" List.mem_cons_self
  rwa [empty]

theorem encloses_inside_cons {piece : Source} {pieces : List Source}
    {found others : List (String × List String)}
    (here : Encloses start (inside (piece.linesAt 0)) found)
    (later : Encloses start (inside ((concat pieces).linesAt 0)) others) :
    Encloses start (inside ((concat (piece :: pieces)).linesAt 0)) (found ++ others) := by
  rw [concat, linesAt, inside_append]
  exact here.append later

theorem encloses_inside_skip {piece : Source} {pieces : List Source}
    {found : List (String × List String)} (none : Encloses start (inside (piece.linesAt 0)) [])
    (later : Encloses start (inside ((concat pieces).linesAt 0)) found) :
    Encloses start (inside ((concat (piece :: pieces)).linesAt 0)) found :=
  encloses_inside_cons none later

theorem encloses_inside_first {piece : Source} {pieces : List Source}
    {found : List (String × List String)} (here : Encloses start (inside (piece.linesAt 0)) found)
    (none : Encloses start (inside ((concat pieces).linesAt 0)) []) :
    Encloses start (inside ((concat (piece :: pieces)).linesAt 0)) found := by
  have whole := encloses_inside_cons here none
  rwa [List.append_nil] at whole

/-- Inside a block, the blocks of its body are found. -/
theorem encloses_inside_block {fixed : String} (apart : Apart (Writer.indentation 1) fixed)
    {body : Source} {found : List (String × List String)}
    (encloses : Encloses start (body.linesAt 0) found) :
    Encloses start (inside ((block fixed body).linesAt 0)) found := by
  rwa [inside_block apart]

/-- A block is found with the lines of its body. -/
theorem encloses_block (flush : Flush start) {header : String}
    (starts : startsWith start (header ++ " \x7b") = true) (body : Source) :
    Encloses start ((block header body).linesAt 0) [(header ++ " \x7b", body.linesAt 0)] := by
  intro rest
  have indented : ∀ text ∈ body.linesAt 1, (decide (text ≠ "\x7d")) = true := by
    intro text member
    rcases indented_of_mem_linesAt member with rfl | ⟨rest, rfl⟩
    · decide
    · refine decide_eq_true fun same => ?_
      have first := congrArg (fun text => text.toList.head?) same
      rw [String.toList_append] at first
      cases first
  have closing : (["\x7d"] ++ rest).takeWhile (· ≠ "\x7d") = [] := by simp
  have remaining : Encloses start (body.linesAt 1 ++ ["\x7d"]) [] := by
    apply encloses_of_absent
    rw [startingWith_append, flush.startingWith_inside, flush.startingWith_closing]
    rfl
  rw [linesAt_block, Writer.indentation_zero, String.empty_append, String.empty_append,
    List.append_assoc, List.append_assoc, List.singleton_append, blocksOf, if_pos starts,
    List.takeWhile_append_of_pos indented, closing, List.append_nil, inside_linesAt,
    ← List.append_assoc, remaining]
  rfl

end CurveForge.Source
