import CurveForge.Document.Basic
import CurveForge.Manifest
import CurveForge.Storage.Basic

/-!
# Sinks that are directories

Every document becomes a file of its own. At the end a manifest of all written
documents is added. The manifest is kept while documents are written; a document
whose file could not be written is not in it.
-/

namespace CurveForge.Directory

variable {m : Type → Type} [Monad m]

def manifestFile : String := "manifest.json"

/-- The manifest of the documents written so far, over what changes the storage. -/
abbrev Recording (m : Type → Type) := StateT (List ManifestEntry) m

def entryOf (d : Document) : ManifestEntry := ⟨d.name, d.fileName, d.lines.length⟩

def prepare (storage : Storage m) (dir : String) : ExceptT GenerationError m Unit :=
  ExceptT.adapt .io (storage.createDirectories dir)

def write (storage : Storage m) (dir : String) (d : Document) :
    ExceptT GenerationError (Recording m) Unit := do
  match ← storage.writeFile (joinPath dir d.fileName) d.text with
  | .ok () => modify fun entries => entries ++ [entryOf d]
  | .error reason => throw (.io reason)

def finish (storage : Storage m) (dir : String) : ExceptT GenerationError (Recording m) Unit := do
  let entries ← get
  let text := Manifest.toJson .indented entries
  match ← storage.writeBuffered (joinPath dir manifestFile) text with
  | .ok () => return ()
  | .error (.outside reason) => throw (.io reason)
  | .error (.filling reason) => throw (.manifest reason)

def sink (storage : Storage m) (dir : String) : Sink (Recording m) :=
  ⟨write storage dir, finish storage dir⟩

end CurveForge.Directory
