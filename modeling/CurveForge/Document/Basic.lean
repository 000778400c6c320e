import CurveForge.Generation

/-!
# Documents and sinks

A document is a generated source file: the name of what it defines, the module
that holds it, and its lines.

A sink is a place that receives documents one by one and is told when the last
one has been written. Either step may fail. What a sink changes is up to the
monad it runs in.
-/

namespace CurveForge

structure Document where
  name : String
  moduleName : String
  lines : List String
  deriving DecidableEq, Repr

namespace Document

def fileName (d : Document) : String := d.moduleName ++ ".rs"

/-- The contents of the file: the lines with a line break between two of them and one at the end. -/
def text (d : Document) : String := "\n".intercalate d.lines ++ "\n"

end Document

structure Sink (m : Type → Type) where
  write : Document → ExceptT GenerationError m Unit
  finish : ExceptT GenerationError m Unit

def Sink.ofWrite {m : Type → Type} [Monad m] (write : Document → ExceptT GenerationError m Unit) :
    Sink m :=
  ⟨write, pure ()⟩

end CurveForge
