import Mathlib
import CurveForge.Proofs.Source.Lines
import CurveForge.Source.Session

/-!
# Guards of a writing session

A ledger is a session that remembers, for each open guard, the writer it was
opened on. Every way to close a guard, one by one or all at once, brings the level
back to that of its opening and writes what ends it there. The level is the number
of open guards that indent, and lines that are written stay.
-/

namespace CurveForge

/-- An open guard with its header and the writer it was opened on. -/
structure Opening where
  guard : Guard
  header : String
  before : Writer
  deriving DecidableEq, Repr

namespace Opening

def indents (o : Opening) : Bool := o.guard.indents

def lines (o : Opening) : List String :=
  o.before.lines.toList ++ o.guard.opening o.before.level o.header

end Opening

/-- A writer and the openings of its open guards, the innermost first. -/
structure Ledger where
  writer : Writer
  openings : List Opening
  deriving DecidableEq, Repr

namespace Ledger

open Writer

def empty : Ledger := ⟨Writer.empty, []⟩

def session (l : Ledger) : Session := ⟨l.writer, l.openings.map Opening.guard⟩

/-- What is left after each closing, when all guards are closed from the innermost on. -/
def closings (w : Writer) : List Opening → List Ledger
  | [] => []
  | o :: rest => ⟨w.closeGuard o.guard, rest⟩ :: closings (w.closeGuard o.guard) rest

/-- The ledgers that a command leads through: one for every guard that is opened or closed. -/
def after (l : Ledger) : WriteCommand → List Ledger
  | .enter guard header =>
      [⟨l.writer.openGuard guard header, ⟨guard, header, l.writer⟩ :: l.openings⟩]
  | .leave => (closings l.writer l.openings).take 1
  | .fail _ => closings l.writer l.openings
  | .crash _ => closings l.writer l.openings
  | command => [⟨(l.session.step command).1.writer, l.openings⟩]

def step (l : Ledger) (command : WriteCommand) : Ledger :=
  (l :: l.after command).getLast (List.cons_ne_nil l _)

def run (l : Ledger) (commands : List WriteCommand) : Ledger := commands.foldl step l

theorem session_closings (w : Writer) (openings : List Opening) :
    ((⟨w, openings⟩ :: closings w openings).getLast (List.cons_ne_nil _ _)).session =
      (session ⟨w, openings⟩).closeAll := by
  induction openings generalizing w with
  | nil => rfl
  | cons o rest ih => exact ih (w.closeGuard o.guard)

theorem session_step (l : Ledger) (command : WriteCommand) :
    (l.step command).session = (l.session.step command).1 := by
  cases command with
  | leave =>
      obtain ⟨w, openings⟩ := l
      cases openings <;> rfl
  | fail message => exact session_closings l.writer l.openings
  | crash message => exact session_closings l.writer l.openings
  | _ => rfl

theorem session_run (l : Ledger) (commands : List WriteCommand) :
    (l.run commands).session = l.session.run commands := by
  induction commands generalizing l with
  | nil => rfl
  | cons command rest ih =>
      calc ((l.step command).run rest).session = (l.step command).session.run rest := ih _
        _ = (l.session.step command).1.run rest := by rw [session_step]

/-- Each guard was opened at the level inside the guard around it. -/
inductive Stacked : Nat → List Opening → Prop where
  | outermost : Stacked 0 []
  | inside {o : Opening} {rest : List Opening} (around : Stacked o.before.level rest) :
      Stacked (o.guard.inner o.before.level) (o :: rest)

theorem Stacked.level_eq {level : Nat} {openings : List Opening} (stacked : Stacked level openings) :
    level = openings.countP Opening.indents := by
  induction stacked with
  | outermost => rfl
  | @inside o rest _ ih =>
      rw [List.countP_cons, ← ih, Guard.inner, Opening.indents]
      cases o.guard.indents <;> rfl

theorem Stacked.of_cons {level : Nat} {o : Opening} {rest : List Opening}
    (stacked : Stacked level (o :: rest)) :
    level = o.guard.inner o.before.level ∧ Stacked o.before.level rest := by
  cases stacked with
  | inside around => exact ⟨rfl, around⟩

/-- The level is the one inside the innermost guard, and every header is still where it was
written. -/
structure Nested (l : Ledger) : Prop where
  stacked : Stacked l.writer.level l.openings
  recorded : ∀ o ∈ l.openings, o.lines <+: l.writer.lines.toList

/-- One change of a ledger. Lines are added at an unchanged level, a guard is opened on the writer,
or the innermost guard is closed: the level is lowered only if it is positive, it is then the level
of the opening, and what ends the guard is written there. -/
inductive Follows (l : Ledger) : Ledger → Prop where
  | writes {w : Writer} (level : w.level = l.writer.level)
      (kept : l.writer.lines.toList <+: w.lines.toList) : Follows l ⟨w, l.openings⟩
  | opens {w : Writer} {guard : Guard} {header : String}
      (level : w.level = guard.inner l.writer.level)
      (lines : w.lines.toList = l.writer.lines.toList ++ guard.opening l.writer.level header) :
      Follows l ⟨w, ⟨guard, header, l.writer⟩ :: l.openings⟩
  | closes {w : Writer} {o : Opening} {rest : List Opening} (innermost : l.openings = o :: rest)
      (positive : o.indents = true → 0 < l.writer.level) (restored : w.level = o.before.level)
      (lines : w.lines.toList = l.writer.lines.toList ++ o.guard.closing o.before.level) :
      Follows l ⟨w, rest⟩

theorem Follows.kept {l next : Ledger} (follows : Follows l next) :
    l.writer.lines.toList <+: next.writer.lines.toList := by
  cases follows with
  | writes level kept => exact kept
  | opens level lines => exact ⟨_, lines.symm⟩
  | closes innermost positive restored lines => exact ⟨_, lines.symm⟩

theorem nested_empty : Nested empty := ⟨.outermost, by simp [empty]⟩

/-- Writing lines at an unchanged level keeps the guards. -/
theorem Nested.write {l : Ledger} (nested : l.Nested) {w : Writer} (level : w.level = l.writer.level)
    (kept : l.writer.lines.toList <+: w.lines.toList) :
    Nested ⟨w, l.openings⟩ ∧ Follows l ⟨w, l.openings⟩ := by
  refine ⟨⟨?_, ?_⟩, .writes level kept⟩
  · rw [level]
    exact nested.stacked
  · intro o member
    exact (nested.recorded o member).trans kept

theorem Nested.enter {l : Ledger} (nested : l.Nested) (guard : Guard) (header : String) :
    let next : Ledger := ⟨l.writer.openGuard guard header, ⟨guard, header, l.writer⟩ :: l.openings⟩
    next.Nested ∧ Follows l next := by
  intro next
  have lines : next.writer.lines.toList =
      l.writer.lines.toList ++ guard.opening l.writer.level header := by
    simp [next, Writer.openGuard_eq]
  have level : next.writer.level = guard.inner l.writer.level := by
    simp [next, Writer.openGuard_eq]
  have follows : Follows l next := .opens level lines
  refine ⟨⟨?_, ?_⟩, follows⟩
  · rw [level]
    exact Stacked.inside (o := ⟨guard, header, l.writer⟩) nested.stacked
  · intro o member
    rcases List.mem_cons.mp member with rfl | member
    · exact ⟨[], by rw [List.append_nil, lines]; rfl⟩
    · exact (nested.recorded o member).trans follows.kept

theorem Nested.close {w : Writer} {o : Opening} {rest : List Opening}
    (nested : Nested ⟨w, o :: rest⟩) :
    Nested ⟨w.closeGuard o.guard, rest⟩ ∧ Follows ⟨w, o :: rest⟩ ⟨w.closeGuard o.guard, rest⟩ := by
  obtain ⟨stacked, recorded⟩ := nested
  obtain ⟨level, lines⟩ := w
  obtain ⟨inner, around⟩ := stacked.of_cons
  have closed : closeGuard ⟨level, lines⟩ o.guard =
      ⟨o.before.level, lines ++ (o.guard.closing o.before.level).toArray⟩ := by
    rw [show level = o.guard.inner o.before.level from inner]
    exact closeGuard_eq _ lines o.guard
  rw [closed]
  have positive : o.indents = true → 0 < level := by
    intro indents
    have deeper : level = o.before.level + 1 := inner.trans (if_pos indents)
    exact deeper ▸ Nat.succ_pos _
  have follows : Follows ⟨⟨level, lines⟩, o :: rest⟩
      ⟨⟨o.before.level, lines ++ (o.guard.closing o.before.level).toArray⟩, rest⟩ :=
    .closes rfl positive rfl Array.toList_append
  refine ⟨⟨around, ?_⟩, follows⟩
  intro other member
  exact (recorded other (List.mem_cons_of_mem _ member)).trans follows.kept

/-- All guards are closed one after another; the induction is on the open guards. -/
theorem Nested.closings {w : Writer} {openings : List Opening} (nested : Nested ⟨w, openings⟩) :
    (∀ m ∈ Ledger.closings w openings, m.Nested) ∧
      (⟨w, openings⟩ :: Ledger.closings w openings).IsChain Follows := by
  induction openings generalizing w with
  | nil => exact ⟨by simp [Ledger.closings], .singleton _⟩
  | cons o rest ih =>
      obtain ⟨inner, follows⟩ := nested.close
      obtain ⟨later, chain⟩ := ih inner
      exact ⟨List.forall_mem_cons.mpr ⟨inner, later⟩, .cons_cons follows chain⟩

theorem docs_extends (w : Writer) (paragraphs : List String) :
    (w.docs paragraphs).level = w.level ∧
      w.lines.toList <+: (w.docs paragraphs).lines.toList := by
  fun_induction Writer.docs w paragraphs with
  | case1 w => exact ⟨rfl, List.prefix_rfl⟩
  | case2 w last => exact ⟨rfl, by simp [Writer.line]⟩
  | case3 w paragraph rest nonempty ih =>
      refine ⟨ih.1, List.IsPrefix.trans ?_ ih.2⟩
      simp [Writer.line]

/-- A command keeps the nesting at every ledger that it leads through. -/
theorem Nested.after {l : Ledger} (nested : l.Nested) (command : WriteCommand) :
    (∀ m ∈ l.after command, m.Nested) ∧ (l :: l.after command).IsChain Follows := by
  have single {next : Ledger} (both : next.Nested ∧ Follows l next) :
      (∀ m ∈ [next], m.Nested) ∧ [l, next].IsChain Follows := by
    exact ⟨List.forall_mem_singleton.mpr both.1, .cons_cons both.2 (.singleton _)⟩
  cases command with
  | line text => exact single (nested.write rfl (by simp [Session.step, session, Writer.line]))
  | blank => exact single (nested.write rfl (by simp [Session.step, session, Writer.blank]))
  | comment text => exact single (nested.write rfl (by simp [Session.step, session, Writer.line]))
  | doc text => exact single (nested.write rfl (by simp [Session.step, session, Writer.line]))
  | docs paragraphs =>
      obtain ⟨level, kept⟩ := docs_extends l.writer paragraphs
      exact single (nested.write level kept)
  | mark text => exact single (nested.write rfl (by simp [Session.step, session, Writer.line]))
  | enter guard header => exact single (nested.enter guard header)
  | leave =>
      obtain ⟨w, openings⟩ := l
      cases openings with
      | nil => exact nested.closings
      | cons o rest => exact single nested.close
  | fail message => exact nested.closings
  | crash message => exact nested.closings

theorem Nested.step {l : Ledger} (nested : l.Nested) (command : WriteCommand) :
    (l.step command).Nested := by
  rcases List.mem_cons.mp (List.getLast_mem (List.cons_ne_nil l (l.after command))) with
    same | later
  · rw [Ledger.step, same]
    exact nested
  · exact (nested.after command).1 _ later

theorem Nested.run {l : Ledger} (nested : l.Nested) (commands : List WriteCommand) :
    (l.run commands).Nested := by
  induction commands generalizing l with
  | nil => exact nested
  | cons command rest ih => exact ih (nested.step command)

/-- Closing all guards leads back to the outermost level. -/
theorem Nested.level_closeAll {l : Ledger} (nested : l.Nested) :
    l.session.closeAll.writer.level = 0 := by
  have closed : (l.step (.fail "")).session = l.session.closeAll := session_step l (.fail "")
  have openings : (l.step (.fail "")).openings = [] :=
    List.map_eq_nil_iff.mp (congrArg Session.guards closed)
  have stacked := (nested.step (.fail "")).stacked
  rw [← congrArg Session.writer closed]
  rw [openings] at stacked
  exact stacked.level_eq

end Ledger

open Ledger

/-- At every moment of a session, also between the closings of a failure, the level is the number of
open guards that indent, and every header stands where it was written. Moments follow one another by
changes that keep all lines and end a guard at the level of its opening. A failure, a crash and the
end of the session lead back to the outermost level. -/
theorem session_levels_follow_guards (commands : List WriteCommand) (command : WriteCommand) :
    let l := Ledger.empty.run commands
    let moments := l :: l.after command
    l.session = Session.empty.run commands ∧
    (moments.getLast (List.cons_ne_nil _ _)).session =
      Session.empty.run (commands ++ [command]) ∧
    (∀ m ∈ moments, m.writer.level = m.openings.countP Opening.indents ∧
      ∀ o ∈ m.openings, o.lines <+: m.writer.lines.toList) ∧
    moments.IsChain Follows ∧
    (Session.empty.run commands).closeAll.writer.level = 0 ∧
    ∀ message, (Session.empty.run (commands ++ [.fail message])).writer.level = 0 ∧
      (Session.empty.run (commands ++ [.crash message])).writer.level = 0 := by
  intro l moments
  have nested : l.Nested := nested_empty.run commands
  obtain ⟨later, chain⟩ := nested.after command
  have run : l.session = Session.empty.run commands := session_run Ledger.empty commands
  have closed : (Session.empty.run commands).closeAll.writer.level = 0 := run ▸ nested.level_closeAll
  have snoc (c : WriteCommand) :
      Session.empty.run (commands ++ [c]) = ((Session.empty.run commands).step c).1 := by
    simp [Session.run]
  refine ⟨run, ?_, ?_, chain, closed, fun message => ?_⟩
  · rw [snoc, ← run]
    exact session_step l command
  · intro m member
    have here : m.Nested := by
      rcases List.mem_cons.mp member with rfl | member
      · exact nested
      · exact later m member
    exact ⟨here.stacked.level_eq, here.recorded⟩
  · rw [snoc, snoc]
    exact ⟨closed, closed⟩

end CurveForge
