import CurveForge.Source.Basic

/-!
# Writing source text

A writer collects lines at a level of indentation. Opening a guard writes its
header, closing it writes what ends it; of the two, a block and a scope raise
the level in between. Trees are written through the same steps.

A session drives a writer by single commands and remembers which guards are
open. A failure or a crash closes all of them, innermost first, and the session
goes on at the outermost level.
-/

namespace CurveForge

/-- The lines written so far and the level at which the next one starts. -/
structure Writer where
  level : Nat
  lines : Array String
  deriving DecidableEq, Repr

namespace Writer

def empty : Writer := ⟨0, #[]⟩

def indentation (level : Nat) : String := String.ofList (List.replicate (4 * level) ' ')

def line (w : Writer) (text : String) : Writer :=
  ⟨w.level, w.lines.push (indentation w.level ++ text)⟩

def blank (w : Writer) : Writer := ⟨w.level, w.lines.push ""⟩

def indent (w : Writer) : Writer := ⟨w.level + 1, w.lines⟩

def dedent (w : Writer) : Writer := ⟨w.level - 1, w.lines⟩

def docs (w : Writer) : List String → Writer
  | [] => w
  | [last] => w.line (Source.docText last)
  | paragraph :: rest =>
      ((w.line (Source.docText paragraph)).line Source.docSeparator).docs rest

def openGuard (w : Writer) : Guard → String → Writer
  | .block, header => (w.line (header ++ " \x7b")).indent
  | .scope, header => (w.line header).indent
  | .region, label => (w.line ("// region: " ++ label)).blank

def closeGuard (w : Writer) : Guard → Writer
  | .block => w.dedent.line "\x7d"
  | .scope => w.dedent
  | .region => w.blank.line "// endregion"

def emit (w : Writer) : Source → Writer
  | .nothing => w
  | .line text => w.line text
  | .blank => w.blank
  | .both first second => (w.emit first).emit second
  | .enclosed guard header body => ((w.openGuard guard header).emit body).closeGuard guard

end Writer

def Source.lines (source : Source) : List String := (Writer.empty.emit source).lines.toList

inductive WriteCommand where
  | line (text : String)
  | blank
  | comment (text : String)
  | doc (text : String)
  | docs (paragraphs : List String)
  | mark (text : String)
  | enter (guard : Guard) (header : String)
  | leave
  | fail (message : String)
  | crash (message : String)
  deriving DecidableEq, Repr

/-- What a command reports besides the lines it wrote. -/
inductive Incident where
  | noOpenGuard
  | failed (message : String)
  | crashed (message : String)
  deriving DecidableEq, Repr

/-- A writer and its open guards, the innermost first. -/
structure Session where
  writer : Writer
  guards : List Guard
  deriving DecidableEq, Repr

namespace Session

def empty : Session := ⟨Writer.empty, []⟩

def closeAll (s : Session) : Session := ⟨s.guards.foldl Writer.closeGuard s.writer, []⟩

def step (s : Session) : WriteCommand → Session × Option Incident
  | .line text => (⟨s.writer.line text, s.guards⟩, none)
  | .blank => (⟨s.writer.blank, s.guards⟩, none)
  | .comment text => (⟨s.writer.line (Source.commentText text), s.guards⟩, none)
  | .doc text => (⟨s.writer.line (Source.docText text), s.guards⟩, none)
  | .docs paragraphs => (⟨s.writer.docs paragraphs, s.guards⟩, none)
  | .mark text => (⟨s.writer.line (Source.attributeText text), s.guards⟩, none)
  | .enter guard header => (⟨s.writer.openGuard guard header, guard :: s.guards⟩, none)
  | .leave =>
      match s.guards with
      | [] => (s, some .noOpenGuard)
      | guard :: rest => (⟨s.writer.closeGuard guard, rest⟩, none)
  | .fail message => (s.closeAll, some (.failed message))
  | .crash message => (s.closeAll, some (.crashed message))

def run (s : Session) (commands : List WriteCommand) : Session :=
  commands.foldl (fun s command => (s.step command).1) s

end Session

end CurveForge
