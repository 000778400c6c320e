import Mathlib
import CurveForge.Proofs.Sink.Complete
import CurveForge.Proofs.Source.LineBreaks

/-!
# What a run leaves behind

A run into a directory may stop anywhere: at a document that cannot be written, at the
manifest, or behind everything. However it ends, and whatever goes wrong on the way, the
manifest that the sink keeps lists the documents that were written. Their files are in
the directory, except for one that a failed write of a later document has broken, and
everything that is neither one of these files, nor that of the failed write, nor the
manifest is as it was before.
-/

namespace CurveForge

open FileTree

variable {σ : Type} {medium : Medium σ} {s after : σ} {tree inside : FileTree} {dir : String}
  {home : TreePath} {written rest : List Document} {entry : ManifestEntry}

/-- No document has the name of the manifest. -/
theorem manifestPath_notMem (home : TreePath) (documents : List Document) :
    home ++ [Directory.manifestFile] ∉ Directory.filePaths home documents := by
  rintro ⟨d, -, same⟩
  have named : Directory.manifestFile = d.fileName :=
    List.singleton_inj.mp (List.append_cancel_left same)
  exact not_isSource_manifestFile (named ▸ d.isSource_fileName)

/-- The file of a document is not touched behind the documents that were written, unless the next
one has its name. -/
theorem filePath_notMem_lastPaths {d : Document} (home : TreePath)
    (other : ∀ failed ∈ rest.head?, failed.fileName ≠ d.fileName) :
    home ++ [d.fileName] ∉ Directory.lastPaths home rest := by
  rintro (⟨failed, member, same⟩ | ⟨-, same⟩)
  · have named : d.fileName = failed.fileName :=
      List.singleton_inj.mp (List.append_cancel_left same)
    cases rest with
    | nil => cases member
    | cons next later =>
        obtain rfl := List.mem_singleton.mp member
        exact other failed rfl named.symm
  · have named : d.fileName = Directory.manifestFile :=
      List.singleton_inj.mp (List.append_cancel_left same)
    exact not_isSource_manifestFile (named ▸ d.isSource_fileName)

/-- A file in the manifest has the text of the last document that was written with its name. -/
theorem node?_of_mem_manifest (left : tree.HoldsAt dir home (inside.withDocuments written))
    (same : tree.SameExcept (medium.tree after) (Directory.lastPaths home rest))
    (listed : entry ∈ written.map Directory.entryOf)
    (other : ∀ failed ∈ rest.head?, failed.fileName ≠ entry.file) :
    ∃ before d later, written = before ++ d :: later ∧ d.fileName = entry.file ∧
      entry.file ∉ later.map Document.fileName ∧
      (medium.tree after).node? (home ++ [entry.file]) = some (.file d.text) := by
  obtain ⟨document, member, rfl⟩ := List.mem_map.mp listed
  obtain ⟨before, d, later, spelled, named, last⟩ :=
    exists_last_of_mem (List.mem_map_of_mem (f := Document.fileName) member)
  refine ⟨before, d, later, spelled, named, last, ?_⟩
  have file : (inside.withDocuments written).child? d.fileName = some ⟨.file d.text, .empty⟩ := by
    rw [← named] at last
    rw [spelled]
    exact child?_withDocuments_last last inside
  change (medium.tree after).node? (home ++ [document.fileName]) = _
  rw [same _ (filePath_notMem_lastPaths home other), ← named, left.node?_entry, file]
  rfl

/-- However a run into a directory without links ends, whatever writes go wrong and wherever they
break off, the manifest of the sink lists the documents that were written, in order; every file in
it has the text of the last of them with its name, unless the next write failed and was to that
file; the file of the manifest changes only if all documents were written; and nothing else in the
whole tree changes but the file of the failed write. -/
theorem regenerate_leaves {catalog : Catalog} {results : List (Except TaskError Document)}
    (slashless : ∀ f ∈ catalog.families, '/' ∉ f.id.toList)
    (generated : generateAll catalog = .ok results)
    (holds : (medium.tree s).HoldsAt dir home inside) (plain : inside.Plain) (withIndex : Bool) :
    ∃ delivery written rest text? answer after,
      regenerate catalog (Directory.sink medium.storage dir) withIndex = .ok delivery ∧
      Directory.perform delivery ([], s) = (answer, written.map Directory.entryOf, after) ∧
      (Batch.ofResults results).outgoing withIndex = written ++ rest ∧
      Directory.Ending ((Batch.ofResults results).outgoing withIndex).length
        (Batch.ofResults results).failed (written.map Directory.entryOf) rest text? answer ∧
      (∀ entry ∈ written.map Directory.entryOf,
        (∀ failed ∈ rest.head?, failed.fileName ≠ entry.file) →
        ∃ before d later, written = before ++ d :: later ∧ d.fileName = entry.file ∧
          entry.file ∉ later.map Document.fileName ∧
          (medium.tree after).node? (home ++ [entry.file]) = some (.file d.text)) ∧
      (∀ text ∈ text?,
        (medium.tree after).node? (home ++ [Directory.manifestFile]) = some (.file text)) ∧
      ((medium.tree after).node? (home ++ [Directory.manifestFile]) ≠
          (medium.tree s).node? (home ++ [Directory.manifestFile]) → rest = []) ∧
      ∀ path ∉ Directory.filePaths home written, path ∉ Directory.filePaths home (rest.take 1) →
        path ≠ home ++ [Directory.manifestFile] →
        (medium.tree after).node? path = (medium.tree s).node? path := by
  have named : ∀ d ∈ (Batch.ofResults results).outgoing withIndex, TreePath.IsName d.fileName :=
    fun d member => isName_of_mem_outgoing slashless generated member
  have fresh : (medium.tree (([], s) : List ManifestEntry × σ).2).HoldsAt dir home inside := holds
  obtain ⟨written, rest, text?, answer, tree, after, performed, spelled, ends, left, changed, last,
    manifest⟩ := Directory.perform_deliver fresh plain named
  refine ⟨_, written, rest, text?, answer, after, regenerate_eq_deliver generated _ withIndex,
    performed, spelled, ends, fun entry listed other => node?_of_mem_manifest left last listed other,
    ?_, ?_, ?_⟩
  · intro text finished
    rw [(manifest text finished).node?_entry, child?_setChild_self]
    rfl
  · intro different
    by_contra stopped
    refine different ((last _ ?_).trans (changed _ (manifestPath_notMem home written)))
    rintro (file | ⟨all, -⟩)
    · exact manifestPath_notMem home _ file
    · exact stopped all
  · intro path other unfailed apart
    refine (last path ?_).trans (changed path other)
    rintro (file | ⟨-, same⟩)
    · exact unfailed file
    · exact apart same

/-- A directory with a file that will be written over, a directory in the place of the next one, and
an old manifest. -/
def FileTree.obstructed : FileTree :=
  .entry "ab_linear_1d.rs" (.file "old") .empty
    (.entry "ab_linear_2d.rs" .directory .empty (.entry "manifest.json" (.file "[]") .empty .empty))

theorem FileTree.plain_obstructed : FileTree.obstructed.Plain :=
  .entry (.inr ⟨_, rfl⟩) (.entry (.inl rfl) (.entry (.inr ⟨_, rfl⟩) plain_empty _) _) _

def FileTree.obstructedOut : FileTree :=
  .entry "out" .directory FileTree.obstructed (.entry "notes" (.file "kept") .empty .empty)

theorem holdsAt_obstructedOut : FileTree.obstructedOut.HoldsAt "out" ["out"] FileTree.obstructed :=
  ⟨⟨FileTree.obstructed.top, [("out", FileTree.obstructedOut)]⟩, by decide +kernel, rfl, rfl⟩

/-- The second document cannot be written; the old manifest and the file beside remain. -/
theorem regenerate_leaves_obstructed :
    ∃ results delivery, ∃ written : List Document, ∃ answer after,
      (∀ f ∈ Catalog.single.families, '/' ∉ f.id.toList) ∧
      generateAll Catalog.single = .ok results ∧
      FileTree.obstructedOut.HoldsAt "out" ["out"] FileTree.obstructed ∧
      FileTree.obstructed.Plain ∧
      regenerate Catalog.single (Directory.sink storage "out") true = .ok delivery ∧
      Directory.perform delivery ([], FileTree.obstructedOut) =
        (answer, written.map Directory.entryOf, after) ∧
      written.length = 1 ∧
      after.node? ["out", "manifest.json"] = some (.file "[]") ∧
      after.node? ["notes"] = some (.file "kept") := by
  have slashless : ∀ f ∈ Catalog.single.families, '/' ∉ f.id.toList := by decide +kernel
  have counted : (regenerate Catalog.single (Directory.sink storage "out") true).toOption.map
      (fun delivery => (Directory.perform delivery ([], FileTree.obstructedOut)).2.1.length) =
        some 1 := by decide +kernel
  have sent : (generateAll Catalog.single).toOption.map
      (fun results => ((Batch.ofResults results).outgoing true).length) = some 4 := by decide +kernel
  have there : (Medium.reliable.tree FileTree.obstructedOut).HoldsAt "out" ["out"]
      FileTree.obstructed := holdsAt_obstructedOut
  cases generated : generateAll Catalog.single with
  | error fault =>
      rw [generated] at sent
      cases sent
  | ok results =>
      obtain ⟨delivery, written, rest, text?, answer, after, delivered, performed, spelled, -, -, -,
        manifest, others⟩ :=
          regenerate_leaves slashless generated there FileTree.plain_obstructed true
      simp only [Medium.tree_reliable] at manifest others
      rw [show regenerate Catalog.single (Directory.sink storage "out") true = .ok delivery from
        delivered] at counted
      have recorded : (Directory.perform delivery ([], FileTree.obstructedOut)).2.1.length = 1 :=
        Option.some.inj counted
      rw [performed, List.length_map] at recorded
      rw [generated] at sent
      have four : ((Batch.ofResults results).outgoing true).length = 4 := Option.some.inj sent
      rw [spelled, List.length_append] at four
      have stopped : rest ≠ [] := by
        rintro rfl
        rw [List.length_nil] at four
        omega
      have old : after.node? ["out", "manifest.json"] = some (.file "[]") :=
        not_not.mp fun changed => stopped (manifest changed)
      have outside (documents : List Document) :
          (["notes"] : TreePath) ∉ Directory.filePaths ["out"] documents := by
        rintro ⟨d, -, same⟩
        cases (List.cons.inj same).2
      have beside : after.node? ["notes"] = some (.file "kept") :=
        others ["notes"] (outside written) (outside _) (by decide)
      exact ⟨results, delivery, written, answer, after, slashless, rfl, holdsAt_obstructedOut,
        FileTree.plain_obstructed, delivered, performed, recorded, old, beside⟩

/-- A family with a description of two lines. -/
def Catalog.twoLined : Catalog :=
  ⟨[⟨{ linear "AB" with pointDescriptions := ["The starting\npoint", "The direction"] }, by rfl⟩]⟩

/-- Two things that one might expect of the manifest fail. A write that breaks off behind the
truncation of a file that the manifest names leaves the text of no document there; and the manifest
counts the entries of a document, which are not the lines of its text if there is a line break in
one. -/
theorem regenerate_breaks_listed_file :
    (∃ delivery entry after,
      regenerate Catalog.similar (Directory.sink Medium.scripted.storage "out") false =
        .ok delivery ∧
      Directory.perform delivery
          ([], FileTree.emptyOut, [none, some (.brokenOff "" true .deviceFull)]) =
        (.error (.io .deviceFull), [entry], after) ∧
      ∀ d : Document, after.1.node? ["out", entry.file] ≠ some (.file d.text)) ∧
    ∃ delivery entries after results, ∃ d : Document,
      regenerate Catalog.twoLined (Directory.sink storage "out") false = .ok delivery ∧
      Directory.perform delivery ([], FileTree.emptyOut) = (.ok 3, entries, after) ∧
      generateAll Catalog.twoLined = .ok results ∧ .ok d ∈ results ∧
      Directory.entryOf d ∈ entries ∧ (Directory.entryOf d).lines ≠ d.text.toList.count '\n' := by
  constructor
  · obtain ⟨delivery, delivered, ran⟩ := Checked.exists_of_any (by decide +kernel :
      (regenerate Catalog.similar (Directory.sink Medium.scripted.storage "out") false).toOption.any
        (fun delivery =>
          let (answer, entries, after) := Directory.perform delivery
            ([], FileTree.emptyOut, [none, some (.brokenOff "" true .deviceFull)])
          answer = .error (.io .deviceFull) ∧ entries.map ManifestEntry.file = ["ab_linear_1d.rs"] ∧
            after.1.node? ["out", "ab_linear_1d.rs"] = some (.file "")) = true)
    rcases performed : Directory.perform delivery
      ([], FileTree.emptyOut, [none, some (.brokenOff "" true .deviceFull)]) with
        ⟨answer, entries, after⟩
    rw [performed] at ran
    obtain ⟨rfl, named, emptied⟩ := of_decide_eq_true ran
    obtain ⟨entry, rfl, file⟩ := List.map_eq_singleton_iff.mp named
    refine ⟨delivery, entry, after, delivered, performed, fun d same => ?_⟩
    rw [file, emptied] at same
    have last := d.getLast?_text
    rw [← FileNode.file.inj (Option.some.inj same)] at last
    cases last
  · obtain ⟨results, generated, passed⟩ := Checked.exists_of_any (by decide +kernel :
      (generateAll Catalog.twoLined).toOption.any (fun results => results.any fun result =>
        result.toOption.any fun d => (d.lines.any fun line => line.toList.contains '\n') &&
          (regenerate Catalog.twoLined (Directory.sink storage "out") false).toOption.any
            fun delivery =>
              let (answer, entries, _) := Directory.perform delivery ([], FileTree.emptyOut)
              answer = .ok 3 ∧ Directory.entryOf d ∈ entries) = true)
    obtain ⟨result, listed, passed⟩ := List.any_eq_true.mp passed
    obtain ⟨d, rfl, passed⟩ := Checked.exists_of_any passed
    obtain ⟨broken, ran⟩ := Bool.and_eq_true_iff.mp passed
    obtain ⟨delivery, delivered, ran⟩ := Checked.exists_of_any ran
    obtain ⟨line, member, breaks⟩ := List.any_eq_true.mp broken
    rcases performed : Directory.perform delivery ([], FileTree.emptyOut) with
      ⟨answer, entries, after⟩
    rw [performed] at ran
    obtain ⟨rfl, recorded⟩ := of_decide_eq_true ran
    exact ⟨delivery, entries, after, results, d, delivered, performed, generated, listed, recorded,
      (d.length_lt_count_text member (List.contains_iff_mem.mp breaks)).ne⟩

end CurveForge
