import Mathlib
import CurveForge.Proofs.Source.Lines
import CurveForge.Proofs.Source.Session

/-!
# Bodies of commands

A body is a run of commands on a writer that was handed to it; the guards that are
open around it are not its to close. Every command comes down to a few calls of the
writer, and these depend only on the guards that the body itself has opened. A body
therefore writes the same everywhere: each of its lines is indented by the level at
which it starts, and its empty lines stay empty.
-/

namespace CurveForge

inductive WriterCall where
  | line (text : String)
  | blank
  | indent
  | dedent
  deriving DecidableEq, Repr

/-- What a body adds to the lines: a line with its text, or an empty line. -/
inductive Entry where
  | line (text : String)
  | blank
  deriving DecidableEq, Repr

namespace Entry

def text : Entry → String
  | line text => text
  | blank => ""

/-- The entry as it is written at a level; an empty line is not indented. -/
def lineAt (level : Nat) : Entry → String
  | line text => Writer.indentation level ++ text
  | blank => ""

theorem lineAt_zero (e : Entry) : e.lineAt 0 = e.text := by
  cases e with
  | line text => exact String.empty_append
  | blank => rfl

end Entry

namespace Writer

def call (w : Writer) : WriterCall → Writer
  | .line text => w.line text
  | .blank => w.blank
  | .indent => w.indent
  | .dedent => w.dedent

def carry (w : Writer) (calls : List WriterCall) : Writer := calls.foldl call w

theorem carry_append (w : Writer) (first second : List WriterCall) :
    w.carry (first ++ second) = (w.carry first).carry second :=
  List.foldl_append ..

end Writer

namespace WriterCall

/-- The entries of calls, the first of which is made at a depth inside the body. -/
def entries : Nat → List WriterCall → List Entry
  | _, [] => []
  | depth, line text :: rest => .line (Writer.indentation depth ++ text) :: entries depth rest
  | depth, blank :: rest => .blank :: entries depth rest
  | depth, indent :: rest => entries (depth + 1) rest
  | depth, dedent :: rest => entries (depth - 1) rest

/-- Calls that lead from one depth to another without leaving the body in between. -/
inductive Leads : Nat → List WriterCall → Nat → Prop where
  | stay (depth : Nat) : Leads depth [] depth
  | line {depth last : Nat} {rest : List WriterCall} (text : String)
      (later : Leads depth rest last) : Leads depth (line text :: rest) last
  | blank {depth last : Nat} {rest : List WriterCall} (later : Leads depth rest last) :
      Leads depth (blank :: rest) last
  | indent {depth last : Nat} {rest : List WriterCall} (later : Leads (depth + 1) rest last) :
      Leads depth (indent :: rest) last
  | dedent {depth last : Nat} {rest : List WriterCall} (later : Leads depth rest last) :
      Leads (depth + 1) (dedent :: rest) last

theorem Leads.append {first second : List WriterCall} {start middle last : Nat}
    (leads : Leads start first middle) (later : Leads middle second last) :
    Leads start (first ++ second) last := by
  induction leads with
  | stay => exact later
  | line text _ ih => exact .line text (ih later)
  | blank _ ih => exact .blank (ih later)
  | indent _ ih => exact .indent (ih later)
  | dedent _ ih => exact .dedent (ih later)

/-- The calls of a body, made on a writer at any level, add the entries at this level. -/
theorem Leads.carry_eq {calls : List WriterCall} {start last : Nat} (leads : Leads start calls last)
    (level : Nat) (lines : Array String) :
    Writer.carry ⟨level + start, lines⟩ calls =
      ⟨level + last, lines ++ ((entries start calls).map (Entry.lineAt level)).toArray⟩ := by
  induction leads generalizing lines with
  | stay depth => simp [Writer.carry, entries]
  | @line depth last rest text _ ih =>
      refine (ih (lines.push (Writer.indentation (level + depth) ++ text))).trans ?_
      rw [Writer.indentation_add, String.append_assoc, entries, List.map_cons,
        ← List.push_append_toArray]
      rfl
  | @blank depth last rest _ ih =>
      refine (ih (lines.push "")).trans ?_
      rw [entries, List.map_cons, ← List.push_append_toArray]
      rfl
  | indent _ ih => exact ih lines
  | dedent _ ih => exact ih lines

end WriterCall

namespace Guard

def openingCalls (header : String) : Guard → List WriterCall
  | block => [.line (header ++ " \x7b"), .indent]
  | scope => [.line header, .indent]
  | region => [.line ("// region: " ++ header), .blank]

def closingCalls : Guard → List WriterCall
  | block => [.dedent, .line "\x7d"]
  | scope => [.dedent]
  | region => [.blank, .line "// endregion"]

theorem openGuard_eq_carry (w : Writer) (guard : Guard) (header : String) :
    w.openGuard guard header = w.carry (guard.openingCalls header) := by
  cases guard <;> rfl

theorem closeGuard_eq_carry (w : Writer) (guard : Guard) :
    w.closeGuard guard = w.carry guard.closingCalls := by
  cases guard <;> rfl

theorem leads_opening (guard : Guard) (header : String) (depth : Nat) :
    WriterCall.Leads depth (guard.openingCalls header) (guard.inner depth) := by
  cases guard with
  | block => exact .line _ (.indent (.stay _))
  | scope => exact .line _ (.indent (.stay _))
  | region => exact .line _ (.blank (.stay _))

theorem leads_closing (guard : Guard) (depth : Nat) :
    WriterCall.Leads (guard.inner depth) guard.closingCalls depth := by
  cases guard with
  | block => exact .dedent (.line _ (.stay _))
  | scope => exact .dedent (.stay _)
  | region => exact .blank (.line _ (.stay _))

def depth (guards : List Guard) : Nat := guards.countP Guard.indents

theorem depth_cons (guard : Guard) (guards : List Guard) :
    depth (guard :: guards) = guard.inner (depth guards) := by
  rw [depth, List.countP_cons]
  cases guard <;> rfl

def allClosingCalls (guards : List Guard) : List WriterCall := guards.flatMap closingCalls

theorem foldl_closeGuard (w : Writer) (guards : List Guard) :
    guards.foldl Writer.closeGuard w = w.carry (allClosingCalls guards) := by
  induction guards generalizing w with
  | nil => rfl
  | cons guard rest ih =>
      rw [allClosingCalls, List.flatMap_cons, Writer.carry_append, ← closeGuard_eq_carry]
      exact ih _

theorem leads_allClosing (guards : List Guard) :
    WriterCall.Leads (depth guards) (allClosingCalls guards) 0 := by
  induction guards with
  | nil => exact .stay 0
  | cons guard rest ih =>
      rw [depth_cons]
      exact (guard.leads_closing _).append ih

end Guard

namespace WriteCommand

def docsCalls : List String → List WriterCall
  | [] => []
  | [last] => [.line (Source.docText last)]
  | paragraph :: rest =>
      .line (Source.docText paragraph) :: .line Source.docSeparator :: docsCalls rest

theorem docs_eq_carry (w : Writer) (paragraphs : List String) :
    w.docs paragraphs = w.carry (docsCalls paragraphs) := by
  fun_induction Writer.docs w paragraphs with
  | case1 w => rfl
  | case2 w last => rfl
  | case3 w paragraph rest nonempty ih =>
      rw [docsCalls.eq_3 _ _ nonempty]
      exact ih

theorem leads_docs (paragraphs : List String) (depth : Nat) :
    WriterCall.Leads depth (docsCalls paragraphs) depth := by
  fun_induction docsCalls paragraphs with
  | case1 => exact .stay depth
  | case2 last => exact .line _ (.stay depth)
  | case3 paragraph rest nonempty ih => exact .line _ (.line _ ih)

/-- The calls of a command in a body with open guards, the innermost first. -/
def calls (guards : List Guard) : WriteCommand → List WriterCall
  | line text => [.line text]
  | blank => [.blank]
  | comment text => [.line (Source.commentText text)]
  | doc text => [.line (Source.docText text)]
  | docs paragraphs => docsCalls paragraphs
  | mark text => [.line (Source.attributeText text)]
  | enter guard header => guard.openingCalls header
  | leave => Guard.allClosingCalls (guards.take 1)
  | fail _ => Guard.allClosingCalls guards
  | crash _ => Guard.allClosingCalls guards

def guardsAfter (guards : List Guard) : WriteCommand → List Guard
  | enter guard _ => guard :: guards
  | leave => guards.tail
  | fail _ => []
  | crash _ => []
  | _ => guards

theorem step_eq (w : Writer) (guards : List Guard) (command : WriteCommand) :
    (Session.step ⟨w, guards⟩ command).1 =
      ⟨w.carry (command.calls guards), command.guardsAfter guards⟩ := by
  cases command with
  | docs paragraphs => exact congrArg (Session.mk · guards) (docs_eq_carry w paragraphs)
  | enter guard header =>
      exact congrArg (Session.mk · (guard :: guards)) (guard.openGuard_eq_carry w header)
  | leave =>
      cases guards with
      | nil => rfl
      | cons guard rest =>
          refine congrArg (Session.mk · rest) ?_
          exact Guard.foldl_closeGuard w [guard]
  | fail message => exact congrArg (Session.mk · []) (Guard.foldl_closeGuard w guards)
  | crash message => exact congrArg (Session.mk · []) (Guard.foldl_closeGuard w guards)
  | _ => rfl

/-- A command leads from the depth of the guards before it to that of the guards behind it. -/
theorem leads_calls (guards : List Guard) (command : WriteCommand) :
    WriterCall.Leads (Guard.depth guards) (command.calls guards)
      (Guard.depth (command.guardsAfter guards)) := by
  cases command with
  | docs paragraphs => exact leads_docs paragraphs _
  | blank => exact .blank (.stay _)
  | enter guard header =>
      rw [guardsAfter, Guard.depth_cons]
      exact guard.leads_opening header _
  | leave =>
      cases guards with
      | nil => exact .stay _
      | cons guard rest =>
          rw [Guard.depth_cons]
          exact (guard.leads_closing _).append (.stay _)
  | fail message => exact Guard.leads_allClosing guards
  | crash message => exact Guard.leads_allClosing guards
  | _ => exact .line _ (.stay _)

/-! ## The calls of a run -/

def runCalls (guards : List Guard) : List WriteCommand → List WriterCall
  | [] => []
  | command :: rest => command.calls guards ++ runCalls (command.guardsAfter guards) rest

def runGuards (guards : List Guard) (commands : List WriteCommand) : List Guard :=
  commands.foldl guardsAfter guards

theorem run_eq (w : Writer) (guards : List Guard) (commands : List WriteCommand) :
    Session.run ⟨w, guards⟩ commands = ⟨w.carry (runCalls guards commands),
      runGuards guards commands⟩ := by
  induction commands generalizing w guards with
  | nil => rfl
  | cons command rest ih =>
      calc Session.run ⟨w, guards⟩ (command :: rest)
          = Session.run (Session.step ⟨w, guards⟩ command).1 rest := rfl
        _ = _ := by rw [step_eq, ih, runCalls, Writer.carry_append, runGuards, runGuards,
              List.foldl_cons]

theorem leads_run (guards : List Guard) (commands : List WriteCommand) :
    WriterCall.Leads (Guard.depth guards) (runCalls guards commands)
      (Guard.depth (runGuards guards commands)) := by
  induction commands generalizing guards with
  | nil => exact .stay _
  | cons command rest ih => exact (leads_calls guards command).append (ih _)

end WriteCommand

/-! ## Bodies in a session -/

namespace Session

/-- Carries out commands inside the open guards of a session. A failure or a crash closes what the
commands have opened and goes no further. -/
def runBody (s : Session) (commands : List WriteCommand) : Session :=
  ⟨(run ⟨s.writer, []⟩ commands).writer, s.guards⟩

def incidents (s : Session) : List WriteCommand → List Incident
  | [] => []
  | command :: rest => (s.step command).2.toList ++ incidents (s.step command).1 rest

/-- What is open further outside does not matter for commands that run without incident. The
induction is on the commands, and each of them only sees the innermost guards. -/
theorem run_of_no_incident {w : Writer} {guards : List Guard} {commands : List WriteCommand}
    (quiet : incidents ⟨w, guards⟩ commands = []) (outside : List Guard) :
    run ⟨w, guards ++ outside⟩ commands =
      ⟨(run ⟨w, guards⟩ commands).writer, (run ⟨w, guards⟩ commands).guards ++ outside⟩ := by
  induction commands generalizing w guards with
  | nil => rfl
  | cons command rest ih =>
      obtain ⟨here, later⟩ := List.append_eq_nil_iff.mp quiet
      cases command with
      | leave =>
          cases guards with
          | nil => cases here
          | cons guard guards => exact ih later
      | enter guard header => exact @ih _ (guard :: guards) later
      | fail message => cases here
      | crash message => cases here
      | _ => exact ih later

end Session

/-- A body that closes what it opens comes down to the same calls on every writer. Where the calls
write a line on an empty writer, they write it behind the indentation of the level at which the body
starts, and their empty lines stay empty; what was written before does not matter, and the level is
the same in the end. A body that runs without incident does so in the middle of any session. -/
theorem runBody_indents_entries (commands : List WriteCommand) (s : Session)
    (closed : (Session.empty.run commands).guards = []) :
    let calls := WriteCommand.runCalls [] commands
    let entries := WriterCall.entries 0 calls
    (Session.empty.run commands).writer = Writer.empty.carry calls ∧
    (Session.empty.run commands).writer.lines.toList = entries.map Entry.text ∧
    (s.runBody commands).writer = s.writer.carry calls ∧
    (s.runBody commands).writer.lines.toList =
      s.writer.lines.toList ++ entries.map (Entry.lineAt s.writer.level) ∧
    (s.runBody commands).writer.level = s.writer.level ∧
    (Session.incidents ⟨s.writer, []⟩ commands = [] → s.run commands = s.runBody commands) := by
  intro calls entries
  have run (w : Writer) : (Session.run ⟨w, []⟩ commands).writer = w.carry calls := by
    rw [WriteCommand.run_eq]
  have guards (w : Writer) : (Session.run ⟨w, []⟩ commands).guards = [] := by
    rw [WriteCommand.run_eq]
    rw [Session.empty, WriteCommand.run_eq] at closed
    exact closed
  have leads : WriterCall.Leads 0 calls 0 := by
    have own := WriteCommand.leads_run [] commands
    have none : WriteCommand.runGuards [] commands = [] := by
      have outer := guards Writer.empty
      rwa [WriteCommand.run_eq] at outer
    rwa [none] at own
  have written (w : Writer) : w.carry calls =
      ⟨w.level, w.lines ++ (entries.map (Entry.lineAt w.level)).toArray⟩ :=
    leads.carry_eq w.level w.lines
  refine ⟨run Writer.empty, ?_, run s.writer, ?_, ?_, ?_⟩
  · rw [Session.empty, run, written]
    simp [Writer.empty, Entry.lineAt_zero]
  · rw [Session.runBody, run, written]
    simp
  · rw [Session.runBody, run, written]
  · intro quiet
    have inner := Session.run_of_no_incident quiet s.guards
    rwa [guards] at inner

def interruptedBody : List WriteCommand :=
  [.enter .block "fn area()", .line "", .blank, .enter .region "Sides", .docs ["a", "b"],
    .enter .scope "sum(", .line "1,", .crash "interrupted"]

def insideBlock : Session := Session.empty.run [.enter .block "impl Square", .line "side();"]

/-- The interrupted body ends its guards, and inside the block every line of it but the empty ones
is indented by one level more. -/
theorem runBody_indents_entries_interrupted :
    (Session.empty.run interruptedBody).guards = [] ∧
    (Session.empty.run interruptedBody).writer.lines.toList =
      ["fn area() \x7b", "    ", "", "    // region: Sides", "", "    /// a", "    ///",
        "    /// b", "    sum(", "        1,", "", "    // endregion", "\x7d"] ∧
    (insideBlock.runBody interruptedBody).writer.lines.toList =
      ["impl Square \x7b", "    side();", "    fn area() \x7b", "        ", "",
        "        // region: Sides", "", "        /// a", "        ///", "        /// b",
        "        sum(", "            1,", "", "        // endregion", "    \x7d"] ∧
    (insideBlock.runBody interruptedBody).writer.level = 1 := by
  have closed : (Session.empty.run interruptedBody).guards = [] := rfl
  obtain ⟨-, fresh, -, lines, level, -⟩ :=
    runBody_indents_entries interruptedBody insideBlock closed
  exact ⟨closed, fresh.trans (by decide), lines.trans (by decide), level⟩

end CurveForge
