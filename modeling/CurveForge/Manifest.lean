import CurveForge.Json.Record

/-!
# Manifests

A manifest lists the documents that were written to a directory: the name of
each document, its file, and its number of lines.
-/

namespace CurveForge

structure ManifestEntry where
  name : String
  file : String
  lines : Nat
  deriving DecidableEq, Repr

namespace ManifestEntry

def fields : List Json.Field := [⟨"name", .text⟩, ⟨"file", .text⟩, ⟨"lines", .unsigned⟩]

def ofFieldValues : List Json.FieldValue → Except Json.Rejection ManifestEntry
  | [.text name, .text file, .number lines] => .ok ⟨name, file, lines.toNat⟩
  | _ => .error .mismatch

def toJson (layout : Json.Layout) (entry : ManifestEntry) : String :=
  layout.object 1 [
    ("name", Json.quote entry.name),
    ("file", Json.quote entry.file),
    ("lines", toString entry.lines)]

end ManifestEntry

namespace Manifest

def ofJson (text : String) : Except Json.Rejection (List ManifestEntry) := do
  let records ← Json.readWholeText (Json.readRecords ManifestEntry.fields) text
  records.mapM ManifestEntry.ofFieldValues

def toJson (layout : Json.Layout) (entries : List ManifestEntry) : String :=
  layout.list 0 (entries.map (ManifestEntry.toJson layout))

end Manifest

end CurveForge
