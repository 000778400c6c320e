import Mathlib
import CurveForge.Proofs.Document.Generate
import CurveForge.Proofs.Naming.Module
import CurveForge.Proofs.Sink.Directory

/-!
# Directories that keep every document

An empty directory keeps every document of a catalog exactly when no two of its
types have the same module name. Nothing keeps a catalog from naming two types
alike: a family may be listed twice, and identifiers may differ in the case of
their letters only.
-/

namespace CurveForge

open FileTree

def FileTree.sourceNames (inside : FileTree) : Set String :=
  {name | ".rs".toList <:+ name.toList ∧
    ∃ text, (inside.child? name).map Branch.node = some (.file text)}

/-- The module names of the types of a catalog, as far as the types have names. -/
def Catalog.moduleNames (catalog : Catalog) : List (Except GenerationError String) :=
  catalog.tasks.map fun task => (task.family.typeName task.dimension).map moduleName

/-- The directory has the given number of source files, and the file of every document has its
text. -/
structure Complete (documents : List Document) (count : Nat) (inside : FileTree) : Prop where
  count_eq : inside.sourceNames.ncard = count
  texts : ∀ d ∈ documents, inside.child? d.fileName = some ⟨.file d.text, .empty⟩

/-- Makes a directory on a medium if it is missing, and writes a catalog to it: the answer, and the
medium afterwards. -/
def regenerateInto {σ : Type} (medium : Medium σ) (catalog : Catalog) (dir : String)
    (withIndex : Bool) (s : σ) : Checked (Except GenerationError Nat) × σ :=
  match (Directory.prepare medium.storage dir).run.run s with
  | (.error reason, after) => (.ok (.error reason), after)
  | (.ok (), ready) =>
      match regenerate catalog (Directory.sink medium.storage dir) withIndex with
      | .error fault => (.error fault, ready)
      | .ok delivery =>
          let written := (delivery.run.run []).run ready
          (.ok written.1.1, written.2)

namespace Document

variable {d : Document}

theorem toList_fileName (d : Document) :
    d.fileName.toList = d.moduleName.toList ++ ['.', 'r', 's'] :=
  String.toList_append ..

theorem isName_fileName (slashless : '/' ∉ d.moduleName.toList) : TreePath.IsName d.fileName := by
  have long (text : String) (short : text.toList.length < 3) : d.fileName ≠ text := by
    rintro rfl
    rw [toList_fileName, List.length_append] at short
    have three : (['.', 'r', 's'] : List Char).length = 3 := rfl
    omega
  refine ⟨?_, long "" (by decide), long "." (by decide), long ".." (by decide)⟩
  rw [toList_fileName, List.mem_append, not_or]
  exact ⟨slashless, by decide⟩

theorem isSource_fileName (d : Document) : ".rs".toList <:+ d.fileName.toList := by
  rw [toList_fileName]
  exact List.suffix_append _ _

end Document

theorem not_isSource_manifestFile : ¬".rs".toList <:+ Directory.manifestFile.toList := by
  decide

/-! ## Directories with documents -/

variable {documents : List Document} {inside : FileTree} {text : String}

/-- The source files of a directory after a delivery are those of the documents. -/
theorem sourceNames_delivered (documents : List Document) (text : String) :
    ((FileTree.empty.withDocuments documents).setChild Directory.manifestFile
      ⟨.file text, .empty⟩).sourceNames = {name | name ∈ documents.map Document.fileName} := by
  ext name
  by_cases manifest : name = Directory.manifestFile
  · subst manifest
    refine iff_of_false (fun source => not_isSource_manifestFile source.1) fun member => ?_
    obtain ⟨d, -, same⟩ := List.mem_map.mp member
    exact not_isSource_manifestFile (same ▸ d.isSource_fileName)
  · simp only [sourceNames, Set.mem_ofPred_eq, child?_setChild_of_ne manifest]
    constructor
    · rintro ⟨-, content, found⟩
      by_contra other
      rw [child?_withDocuments_of_notMem other] at found
      cases found
    · intro member
      obtain ⟨content, found⟩ := exists_file_of_mem member .empty
      obtain ⟨d, -, rfl⟩ := List.mem_map.mp member
      exact ⟨d.isSource_fileName, content, by rw [found]; rfl⟩

theorem ncard_eq_length_iff (names : List String) :
    {name | name ∈ names}.ncard = names.length ↔ names.Nodup := by
  have finite : {name | name ∈ names} = (names.toFinset : Set String) := by
    ext name
    simp
  rw [finite, Set.ncard_coe_finset, List.card_toFinset]
  constructor
  · intro same
    rw [← (List.dedup_sublist names).eq_of_length same]
    exact List.nodup_dedup names
  · intro distinct
    rw [distinct.dedup]

/-- After a delivery, a directory is complete if the documents have different file names. -/
theorem complete_delivered_iff (documents : List Document) (text : String) :
    Complete documents documents.length
      ((FileTree.empty.withDocuments documents).setChild Directory.manifestFile
        ⟨.file text, .empty⟩) ↔ (documents.map Document.fileName).Nodup := by
  have counted := ncard_eq_length_iff (documents.map Document.fileName)
  rw [List.length_map, ← sourceNames_delivered documents text] at counted
  constructor
  · intro complete
    exact counted.mp complete.count_eq
  · intro distinct
    refine ⟨counted.mpr distinct, fun d member => ?_⟩
    have other : d.fileName ≠ Directory.manifestFile := fun same =>
      not_isSource_manifestFile (same ▸ d.isSource_fileName)
    rw [child?_setChild_of_ne other]
    exact child?_withDocuments_of_nodup distinct member .empty

/-! ## Documents of a catalog -/

variable {catalog : Catalog} {results : List (Except TaskError Document)} {d : Document}

/-- Modules of types have names without slashes and with a digit. -/
theorem moduleName_of_mem_documents (slashless : ∀ f ∈ catalog.families, '/' ∉ f.id.toList)
    (generated : generateAll catalog = .ok results)
    (member : d ∈ results.filterMap Except.toOption) :
    '/' ∉ d.moduleName.toList ∧ ∃ dimension : Dimension, dimension.digit ∈ d.moduleName.toList := by
  obtain ⟨⟨dimension, f⟩, listed, produced⟩ := exists_task_of_mem_documents generated member
  obtain ⟨name, named, moduled⟩ := exists_typeName_of_generateType produced
  rw [moduled]
  exact ⟨slash_notMem_moduleName_of_typeName (slashless f (mem_generated_iff.mp listed)) named,
    dimension, digit_mem_moduleName named⟩

theorem moduleNames_eq (generated : generateAll catalog = .ok (documents.map .ok)) :
    catalog.moduleNames = documents.map fun d => .ok d.moduleName := by
  rw [Catalog.moduleNames, tasks_eq, List.map_map]
  refine map_eq_map_of_forall₂ ((documents_of_generateAll generated).imp fun p d produced => ?_)
  obtain ⟨name, named, moduled⟩ := exists_typeName_of_generateType produced
  change (p.2.typeName p.1.number).map moduleName = _
  rw [named, moduled]
  rfl

/-- The documents of a batch, and the index behind them if it is wanted. -/
def withModuleIndex (documents : List Document) (withIndex : Bool) : List Document :=
  documents ++ if withIndex then [moduleIndex documents] else []

theorem Batch.outgoing_eq (batch : Batch) (withIndex : Bool) :
    batch.outgoing withIndex = withModuleIndex batch.documents withIndex := by
  cases withIndex with
  | false => exact (List.append_nil _).symm
  | true => rfl

/-- The index has a file name of its own. -/
theorem nodup_fileNames_iff (withIndex : Bool)
    (digits : ∀ d ∈ documents, ∃ dimension : Dimension, dimension.digit ∈ d.moduleName.toList) :
    ((withModuleIndex documents withIndex).map Document.fileName).Nodup ↔
      (documents.map Document.moduleName).Nodup := by
  have ending : Function.Injective fun module : String => module ++ ".rs" := by
    intro first second same
    have spelled := congrArg String.toList same
    simp only [String.toList_append] at spelled
    exact String.toList_inj.mp (List.append_cancel_right spelled)
  have files (documents : List Document) : (documents.map Document.fileName).Nodup ↔
      (documents.map Document.moduleName).Nodup := by
    have same : documents.map Document.fileName =
        (documents.map Document.moduleName).map fun module => module ++ ".rs" := by
      rw [List.map_map]
      rfl
    rw [same, List.nodup_map_iff ending]
  have index : "mod" ∉ documents.map Document.moduleName := by
    intro member
    obtain ⟨d, listed, same⟩ := List.mem_map.mp member
    obtain ⟨dimension, digit⟩ := digits d listed
    rw [same] at digit
    revert digit
    cases dimension <;> decide
  rw [files, withModuleIndex]
  cases withIndex with
  | false => rw [if_neg Bool.false_ne_true, List.append_nil]
  | true =>
      rw [if_pos rfl, List.map_append]
      change (documents.map Document.moduleName ++ ["mod"]).Nodup ↔ _
      rw [← List.concat_eq_append, List.nodup_concat]
      exact and_iff_right index

theorem isName_of_mem_outgoing (slashless : ∀ f ∈ catalog.families, '/' ∉ f.id.toList)
    (generated : generateAll catalog = .ok results) {withIndex : Bool}
    (member : d ∈ (Batch.ofResults results).outgoing withIndex) : TreePath.IsName d.fileName := by
  have each {d : Document} (listed : d ∈ results.filterMap Except.toOption) :
      TreePath.IsName d.fileName :=
    Document.isName_fileName (moduleName_of_mem_documents slashless generated listed).1
  unfold Batch.outgoing at member
  split at member
  · rcases List.mem_append.mp member with listed | index
    · exact each listed
    · rw [List.mem_singleton] at index
      subst index
      have plain : '/' ∉ "mod".toList := by decide
      exact Document.isName_fileName plain
  · exact each member

section Runs

variable {σ : Type} {medium : Medium σ} {dir : String} {withIndex : Bool} {s after : σ}
  {count : Nat}

/-- A run into a directory. -/
theorem regenerate_eq_deliver (generated : generateAll catalog = .ok results) {m : Type → Type}
    [Monad m] (sink : Sink m) (withIndex : Bool) :
    regenerate catalog sink withIndex = .ok ((Batch.ofResults results).deliver sink withIndex) := by
  rw [regenerate, generated]
  rfl

/-- A directory that is there already is written to as it is. -/
theorem performed_of_regenerateInto (empty : (medium.tree s).Holds dir .empty)
    (returned : regenerateInto medium catalog dir withIndex s = (.ok (.ok count), after)) :
    ∃ results written, generateAll catalog = .ok results ∧
      Directory.perform
        ((Batch.ofResults results).deliver (Directory.sink medium.storage dir) withIndex) ([], s) =
          (.ok count, (written, after)) := by
  have kept := Medium.prepare_of_holds empty
  unfold regenerateInto at returned
  rcases prepared : (Directory.prepare medium.storage dir).run.run s with ⟨answer, ready⟩
  rw [prepared] at kept returned
  obtain rfl : ready = s := kept
  cases answer with
  | error reason => cases returned
  | ok _ =>
      cases generated : generateAll catalog with
      | error fault =>
          have faulted : regenerate catalog (Directory.sink medium.storage dir) withIndex =
              .error fault := by
            rw [regenerate, generated]
            rfl
          simp only [faulted] at returned
          cases returned
      | ok results =>
          simp only [regenerate_eq_deliver generated, Prod.mk.injEq, Except.ok.injEq] at returned
          obtain ⟨answered, left⟩ := returned
          exact ⟨results, _, rfl, Prod.ext answered (Prod.ext rfl left)⟩

/-- What a catalog that is written with success leaves in an empty directory. -/
theorem delivered_of_regenerateInto (slashless : ∀ f ∈ catalog.families, '/' ∉ f.id.toList)
    (empty : (medium.tree s).Holds dir .empty)
    (returned : regenerateInto medium catalog dir withIndex s = (.ok (.ok count), after)) :
    ∃ documents text, generateAll catalog = .ok (documents.map .ok) ∧
      count = (withModuleIndex documents withIndex).length ∧
      (medium.tree after).Holds dir
        ((FileTree.empty.withDocuments (withModuleIndex documents withIndex)).setChild
          Directory.manifestFile ⟨.file text, .empty⟩) := by
  obtain ⟨results, written, generated, performed⟩ := performed_of_regenerateInto empty returned
  obtain ⟨none, counted, text, holds⟩ := Directory.deliver_holds empty
    (fun d member => isName_of_mem_outgoing slashless generated member) performed
  rw [Batch.outgoing_eq] at counted holds
  exact ⟨_, text, generated.trans (congrArg _ (results_eq_map_of_failed none)), counted, holds⟩

/-- Documents whose modules are those of a catalog have different file names if the module names
differ. -/
theorem nodup_fileNames_iff_moduleNames (slashless : ∀ f ∈ catalog.families, '/' ∉ f.id.toList)
    (generated : generateAll catalog = .ok (documents.map .ok)) (withIndex : Bool) :
    ((withModuleIndex documents withIndex).map Document.fileName).Nodup ↔
      catalog.moduleNames.Nodup := by
  have digits : ∀ d ∈ documents, ∃ dimension : Dimension,
      dimension.digit ∈ d.moduleName.toList := by
    intro d member
    refine (moduleName_of_mem_documents slashless generated ?_).2
    exact List.mem_filterMap.mpr ⟨.ok d, List.mem_map_of_mem member, rfl⟩
  have names : catalog.moduleNames = (documents.map Document.moduleName).map .ok := by
    rw [moduleNames_eq generated, List.map_map]
    rfl
  rw [nodup_fileNames_iff withIndex digits, names,
    List.nodup_map_iff fun first second same => Except.ok.inj same]

end Runs

/-- Exactly the catalogs whose types have different module names are kept completely: an empty
directory to which one is written with success has a file with the text of every document, and the
answered number of source files. -/
theorem regenerateInto_complete_iff {σ : Type} {medium : Medium σ} {dir : String}
    {withIndex : Bool} {s after : σ} {count : Nat}
    (slashless : ∀ f ∈ catalog.families, '/' ∉ f.id.toList)
    (empty : (medium.tree s).Holds dir .empty)
    (returned : regenerateInto medium catalog dir withIndex s = (.ok (.ok count), after)) :
    ∃ documents inside, generateAll catalog = .ok (documents.map .ok) ∧
      (medium.tree after).Holds dir inside ∧
      (Complete (withModuleIndex documents withIndex) count inside ↔ catalog.moduleNames.Nodup) := by
  obtain ⟨documents, text, generated, rfl, holds⟩ :=
    delivered_of_regenerateInto slashless empty returned
  refine ⟨documents, _, generated, holds, ?_⟩
  rw [complete_delivered_iff, nodup_fileNames_iff_moduleNames slashless generated]

theorem returned_of_value {answer : Checked (Except GenerationError Nat) × FileTree} {count : Nat}
    (value : answer.1.toOption.bind Except.toOption = some count) :
    answer = (.ok (.ok count), answer.2) := by
  obtain ⟨result, after⟩ := answer
  cases result with
  | error fault => cases value
  | ok verdict =>
      cases verdict with
      | error reason => cases value
      | ok number =>
          cases value
          rfl

def FileTree.emptyOut : FileTree := .entry "out" .directory .empty .empty

theorem holds_emptyOut : FileTree.emptyOut.Holds "out" .empty :=
  ⟨⟨FileTree.empty.top, [("out", FileTree.emptyOut)]⟩, by decide +kernel, rfl⟩

namespace Catalog

def linear (id : String) : Family where
  degree := 1
  id := id
  display := "Line"
  basisId := "line"
  matrix := ⟨2, Grid.identity 2⟩
  pointNames := ["p0", "v0"]
  pointDescriptions := ["The starting point", "The direction"]
  splittable := false

def similar : Catalog := ⟨[⟨linear "AB", by rfl⟩, ⟨linear "Ab", by rfl⟩]⟩

def single : Catalog := ⟨[⟨linear "AB", by rfl⟩]⟩

end Catalog

/-- A single family is kept with its index. -/
theorem regenerateInto_complete_single :
    ∃ after documents inside,
      regenerateInto .reliable Catalog.single "out" true FileTree.emptyOut = (.ok (.ok 4), after) ∧
      generateAll Catalog.single = .ok (documents.map .ok) ∧ after.Holds "out" inside ∧
      Complete (withModuleIndex documents true) 4 inside := by
  have returned := returned_of_value (by decide +kernel :
    (regenerateInto .reliable Catalog.single "out" true FileTree.emptyOut).1.toOption.bind
      Except.toOption = some 4)
  obtain ⟨documents, inside, generated, holds, complete⟩ :=
    regenerateInto_complete_iff (by decide +kernel) holds_emptyOut returned
  rw [Medium.tree_reliable] at holds
  exact ⟨_, documents, inside, returned, generated, holds, complete.mpr (by decide +kernel)⟩

/-- Of two families whose identifiers differ in the case of a letter, one is lost. -/
theorem regenerateInto_loses_similar :
    ∃ after documents inside,
      regenerateInto .reliable Catalog.similar "out" false FileTree.emptyOut = (.ok (.ok 6), after) ∧
      generateAll Catalog.similar = .ok (documents.map .ok) ∧ after.Holds "out" inside ∧
      ¬Complete (withModuleIndex documents false) 6 inside := by
  have slashless : ∀ f ∈ Catalog.similar.families, '/' ∉ f.id.toList := by decide +kernel
  have returned := returned_of_value (by decide +kernel :
    (regenerateInto .reliable Catalog.similar "out" false FileTree.emptyOut).1.toOption.bind
      Except.toOption = some 6)
  obtain ⟨documents, text, generated, counted, holds⟩ :=
    delivered_of_regenerateInto slashless holds_emptyOut returned
  rw [Medium.tree_reliable] at holds
  refine ⟨_, documents, _, returned, generated, holds, ?_⟩
  rw [counted, complete_delivered_iff, nodup_fileNames_iff_moduleNames slashless generated]
  decide +kernel

end CurveForge
