import CurveForge.Document.Basic
import CurveForge.Document.ControlPoints
import CurveForge.Document.Definition
import CurveForge.Document.Splitting
import CurveForge.Document.Traits
import CurveForge.Naming
import CurveForge.Source.Session

/-!
# Batches

The document of a segment type is its blueprint written down section by section.

A batch generates every family of a catalog in every dimension. A task that
fails leaves the others alone. All documents that were generated are written,
even if some tasks failed; that is reported only after the sink has been
finished. A sink that fails ends the batch at once.
-/

namespace CurveForge

namespace Blueprint

open Source

def inherentImplementation (b : Blueprint) : Source :=
  concat [
    block ("impl " ++ b.name) (concat [
      b.constructor,
      .blank,
      b.curveFunction,
      .blank,
      b.pointsFunction,
      .blank,
      b.controlPoints,
      .blank,
      b.lerpFunction,
      b.spherical.elim .nothing fun ends => .blank ++ b.slerpFunction ends,
      onlyIf b.splittable (.blank ++ b.splitFunction)]),
    .blank]

def source (b : Blueprint) : Source :=
  concat [
    b.imports,
    b.definition,
    b.inherentImplementation,
    b.traitImplementations,
    b.dimensionCast,
    b.basisConversions]

def document (b : Blueprint) : Document := ⟨b.name, moduleName b.name, b.source.lines⟩

end Blueprint

/-- Generates the document of a family in a dimension; the family is validated first. -/
def generateType (catalog : Catalog) (f : Family) (dimension : Nat) : Generation Document := do
  let valid ← f.check
  let blueprint ← Blueprint.ofFamily catalog valid dimension
  return blueprint.document

def moduleIndex (documents : List Document) : Document :=
  let source := Source.concat [
    .comment generatedNotice,
    .blank,
    .ofLines (documents.map fun d => "mod " ++ d.moduleName ++ ";"),
    .blank,
    .ofLines (documents.map fun d => "pub use " ++ d.moduleName ++ "::" ++ d.name ++ ";")]
  ⟨"mod", "mod", source.lines⟩

structure GenerationTask where
  family : Family
  dimension : Nat
  deriving DecidableEq, Repr

/-- The name of a task: that of its type, or a description if the type has none. -/
def GenerationTask.text (task : GenerationTask) : String :=
  match task.family.typeName task.dimension with
  | .ok name => name
  | .error _ =>
      task.family.id ++ " (degree " ++ toString task.family.degree ++ ", " ++
        toString task.dimension ++ "D)"

structure TaskError where
  task : String
  reason : GenerationError
  deriving DecidableEq, Repr

def TaskError.message (e : TaskError) : String :=
  "failed to generate " ++ e.task ++ ": " ++ e.reason.message

def Catalog.tasks (catalog : Catalog) : List GenerationTask :=
  Dimension.all.flatMap fun d => catalog.families.map fun f => ⟨f, d.number⟩

/-- Carries out a task; its error is an answer like its document. -/
def runTask (catalog : Catalog) (task : GenerationTask) : Checked (Except TaskError Document) := do
  let result ← (generateType catalog task.family task.dimension).run
  return result.mapError fun reason => ⟨task.text, reason⟩

def generateAll (catalog : Catalog) : Checked (List (Except TaskError Document)) :=
  catalog.tasks.mapM (runTask catalog)

/-- The documents of a batch in order, and the number of failed tasks. -/
structure Batch where
  documents : List Document
  failed : Nat
  deriving DecidableEq, Repr

namespace Batch

def ofResults (results : List (Except TaskError Document)) : Batch where
  documents := results.filterMap Except.toOption
  failed := results.countP fun result => result.toOption.isNone

/-- The documents to be written; the index of modules comes last. -/
def outgoing (batch : Batch) (withIndex : Bool) : List Document :=
  if withIndex then batch.documents ++ [moduleIndex batch.documents] else batch.documents

def deliver {m : Type → Type} [Monad m] (batch : Batch) (sink : Sink m) (withIndex : Bool) :
    ExceptT GenerationError m Nat := do
  let outgoing := batch.outgoing withIndex
  outgoing.forM sink.write
  sink.finish
  if batch.failed > 0 then throw (.batchFailed batch.failed)
  return outgoing.length

end Batch

/-- Generates a catalog and writes it to a sink. A fault arises before anything is written. -/
def regenerate {m : Type → Type} [Monad m] (catalog : Catalog) (sink : Sink m)
    (withIndex : Bool) : Checked (ExceptT GenerationError m Nat) := do
  let results ← generateAll catalog
  return (Batch.ofResults results).deliver sink withIndex

end CurveForge
