import Mathlib
import CurveForge.Manifest
import CurveForge.Proofs.Json.Record

/-!
# Manifests are read back

A manifest is a list of records, so it is read back from the text that is written of it.
The number of lines of an entry has to be a word; names and files are any texts.
-/

namespace CurveForge

namespace ManifestEntry

def record (entry : ManifestEntry) : Json.Entries :=
  [(⟨"name", .text⟩, .text entry.name), (⟨"file", .text⟩, .text entry.file),
    (⟨"lines", .unsigned⟩, .number entry.lines)]

theorem fit_record {entry : ManifestEntry} (small : entry.lines < UInt64.size) : entry.record.Fit := by
  intro field listed
  simp only [record, List.mem_cons, List.not_mem_nil, or_false] at listed
  rcases listed with rfl | rfl | rfl
  · exact .text _
  · exact .text _
  · exact .unsigned small

theorem ofFieldValues_record (entry : ManifestEntry) :
    ofFieldValues (entry.record.map Prod.snd) = .ok entry := rfl

end ManifestEntry

namespace Manifest

variable {entries : List ManifestEntry}

theorem uniform_records (small : ∀ entry ∈ entries, entry.lines < UInt64.size) :
    Json.Uniform ManifestEntry.fields (entries.map ManifestEntry.record) := by
  intro record listed
  obtain ⟨entry, member, rfl⟩ := List.mem_map.mp listed
  exact ⟨rfl, ManifestEntry.fit_record (small entry member)⟩

theorem mapM_record (entries : List ManifestEntry) :
    (entries.map fun entry => entry.record.map Prod.snd).mapM ManifestEntry.ofFieldValues =
      .ok entries := by
  rw [Checked.mapM_eq_ok_iff, List.forall₂_map_left_iff, List.forall₂_same]
  exact fun entry _ => entry.ofFieldValues_record

/-- A manifest is read back in every layout that differs from the compact one in blanks only. -/
theorem ofJson_spaced {layout : Json.Layout} (spaced : layout.Spaced)
    (small : ∀ entry ∈ entries, entry.lines < UInt64.size) :
    ofJson (toJson layout entries) = .ok entries := by
  have distinct : (ManifestEntry.fields.map Json.Field.name).Nodup := by decide
  have text : toJson layout entries =
      layout.list 0 ((entries.map ManifestEntry.record).map (Json.Entries.object layout 1)) := by
    rw [toJson, List.map_map]
    rfl
  have read : Json.readRecords ManifestEntry.fields ((toJson layout entries).toList ++ []) =
      .ok ((entries.map ManifestEntry.record).map (List.map Prod.snd), []) := by
    rw [text]
    exact Json.readRecords_list distinct spaced (uniform_records small)
  rw [List.append_nil] at read
  rw [ofJson, Json.readWholeText_of_read read, List.map_map]
  exact mapM_record entries

/-- The manifest of any documents is read back from its compact text, and from the text that ends
the writing of a directory. -/
theorem ofJson_toJson (small : ∀ entry ∈ entries, entry.lines < UInt64.size) :
    ofJson (toJson .compact entries) = .ok entries ∧
      ofJson (toJson .indented entries) = .ok entries :=
  ⟨ofJson_spaced Json.spaced_compact small, ofJson_spaced Json.spaced_indented small⟩

def escapedEntries : List ManifestEntry :=
  [⟨"a \"b\" \\", "a\n\t\u0001.rs", 18446744073709551615⟩, ⟨"", "é/𝔽", 0⟩]

theorem ofJson_toJson_escapedEntries :
    (∀ entry ∈ escapedEntries, entry.lines < UInt64.size) ∧
      ofJson (toJson .compact escapedEntries) = .ok escapedEntries ∧
      ofJson (toJson .indented escapedEntries) = .ok escapedEntries :=
  have small : ∀ entry ∈ escapedEntries, entry.lines < UInt64.size := by decide
  ⟨small, ofJson_toJson small⟩

end Manifest

end CurveForge
