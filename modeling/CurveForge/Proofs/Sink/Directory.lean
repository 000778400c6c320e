import Mathlib
import CurveForge.Batch
import CurveForge.Proofs.Batch
import CurveForge.Proofs.Storage.TreeStorage

/-!
# Documents in a directory

A batch that is delivered to a directory of a file tree leaves a file for each
document there that was written, and the manifest if all of them were. Of documents
with the same file name the last one remains, and the rest of the tree is not touched.
-/

namespace CurveForge

namespace FileTree

def withDocuments (inside : FileTree) (documents : List Document) : FileTree :=
  documents.foldl (fun inside d => inside.setChild d.fileName ⟨.file d.text, .empty⟩) inside

variable {inside : FileTree} {name : String} {documents : List Document} {d : Document}

theorem withDocuments_append (inside : FileTree) (first second : List Document) :
    inside.withDocuments (first ++ second) = (inside.withDocuments first).withDocuments second :=
  List.foldl_append ..

theorem Plain.withDocuments (plain : inside.Plain) (documents : List Document) :
    (inside.withDocuments documents).Plain := by
  induction documents generalizing inside with
  | nil => exact plain
  | cons d rest ih => exact ih (plain.setChild d.fileName d.text)

theorem child?_withDocuments_of_notMem (other : name ∉ documents.map Document.fileName)
    (inside : FileTree) : (inside.withDocuments documents).child? name = inside.child? name := by
  induction documents generalizing inside with
  | nil => rfl
  | cons d rest ih =>
      obtain ⟨different, later⟩ := List.ne_and_not_mem_of_not_mem_cons other
      exact (ih later _).trans (child?_setChild_of_ne different)

/-- The file of a document remains if no later document has its file name. -/
theorem child?_withDocuments_last {before later : List Document}
    (last : d.fileName ∉ later.map Document.fileName) (inside : FileTree) :
    (inside.withDocuments (before ++ d :: later)).child? d.fileName =
      some ⟨.file d.text, .empty⟩ := by
  rw [withDocuments_append]
  exact (child?_withDocuments_of_notMem last _).trans (child?_setChild_self _ _ _)

/-- Among documents, one is the last with its file name. -/
theorem exists_last_of_mem (member : name ∈ documents.map Document.fileName) :
    ∃ before d later, documents = before ++ d :: later ∧ d.fileName = name ∧
      name ∉ later.map Document.fileName := by
  induction documents with
  | nil => cases member
  | cons d rest ih =>
      by_cases again : name ∈ rest.map Document.fileName
      · obtain ⟨before, last, later, spelled, named, none⟩ := ih again
        exact ⟨d :: before, last, later, congrArg (d :: ·) spelled, named, none⟩
      · rcases List.mem_cons.mp member with same | further
        · exact ⟨[], d, rest, rfl, same.symm, again⟩
        · exact absurd further again

/-- Every file name of a document has a file. -/
theorem exists_file_of_mem (member : name ∈ documents.map Document.fileName) (inside : FileTree) :
    ∃ text, (inside.withDocuments documents).child? name = some ⟨.file text, .empty⟩ := by
  obtain ⟨before, d, later, rfl, rfl, last⟩ := exists_last_of_mem member
  exact ⟨d.text, child?_withDocuments_last last inside⟩

/-- The file of a document remains if no other document has its file name. -/
theorem child?_withDocuments_of_nodup (distinct : (documents.map Document.fileName).Nodup)
    (member : d ∈ documents) (inside : FileTree) :
    (inside.withDocuments documents).child? d.fileName = some ⟨.file d.text, .empty⟩ := by
  obtain ⟨before, later, rfl⟩ := List.append_of_mem member
  rw [List.map_append, List.map_cons] at distinct
  have last := (List.nodup_cons.mp (List.Nodup.of_append_right distinct)).1
  exact child?_withDocuments_last last inside

end FileTree

namespace Directory

open FileTree

variable {α β σ : Type}

/-- Carries out a computation on a manifest and a medium. -/
def perform (x : ExceptT GenerationError (Recording (StateM σ)) α)
    (state : List ManifestEntry × σ) :
    Except GenerationError α × List ManifestEntry × σ :=
  let result := (x.run.run state.1).run state.2
  (result.1.1, result.1.2, result.2)

variable {x : ExceptT GenerationError (Recording (StateM σ)) α}
  {next : α → ExceptT GenerationError (Recording (StateM σ)) β}
  {medium : Medium σ} {state after : List ManifestEntry × σ} {dir : String} {home : TreePath}
  {inside : FileTree}

theorem perform_bind :
    perform (x >>= next) state =
      match perform x state with
      | (.ok value, between) => perform (next value) between
      | (.error reason, between) => (.error reason, between) := by
  unfold perform
  rw [ExceptT.run_bind, StateT.run_bind, StateT.run_bind]
  rcases (x.run.run state.1).run state.2 with ⟨⟨answer, entries⟩, tree⟩
  cases answer <;> rfl

theorem perform_bind_of_ok {value : α} (done : perform x state = (.ok value, after)) :
    perform (x >>= next) state = perform (next value) after := by
  rw [perform_bind, done]

theorem perform_bind_of_error {reason : GenerationError}
    (refused : perform x state = (.error reason, after)) :
    perform (x >>= next) state = (.error reason, after) := by
  rw [perform_bind, refused]

def attempt (medium : Medium σ) (s : σ) (dir name text : String) :
    Except BufferedFailure Unit × FileTree :=
  (medium.tree s).write (medium.mishap? s) (joinPath dir name) text

/-- A document is recorded if its file could be written; the tree changes in any case. -/
theorem perform_write (medium : Medium σ) (dir : String) (d : Document)
    (state : List ManifestEntry × σ) :
    perform (write medium.storage dir d) state =
      match attempt medium state.2 dir d.fileName d.text with
      | (.ok (), tree) => (.ok (), state.1 ++ [entryOf d], medium.change tree state.2)
      | (.error failure, tree) =>
          (.error (.io failure.reason), state.1, medium.change tree state.2) := by
  have stored : perform (liftM (medium.storage.writeFile (joinPath dir d.fileName) d.text)) state =
      (.ok ((attempt medium state.2 dir d.fileName d.text).1.mapError BufferedFailure.reason),
        state.1, medium.change (attempt medium state.2 dir d.fileName d.text).2 state.2) := rfl
  refine (perform_bind_of_ok stored).trans ?_
  rcases attempt medium state.2 dir d.fileName d.text with ⟨failure | -, tree⟩ <;> rfl

theorem perform_finish (medium : Medium σ) (dir : String) (state : List ManifestEntry × σ) :
    perform (finish medium.storage dir) state =
      match attempt medium state.2 dir manifestFile (Manifest.toJson .indented state.1) with
      | (.ok (), tree) => (.ok (), state.1, medium.change tree state.2)
      | (.error (.outside reason), tree) =>
          (.error (.io reason), state.1, medium.change tree state.2)
      | (.error (.filling reason), tree) =>
          (.error (.manifest reason), state.1, medium.change tree state.2) := by
  have read : perform get state = (.ok state.1, state) := rfl
  have stored : perform (liftM (medium.storage.writeBuffered (joinPath dir manifestFile)
        (Manifest.toJson .indented state.1))) state =
      (.ok (attempt medium state.2 dir manifestFile (Manifest.toJson .indented state.1)).1, state.1,
        medium.change (attempt medium state.2 dir manifestFile
          (Manifest.toJson .indented state.1)).2 state.2) := rfl
  refine (perform_bind_of_ok read).trans ((perform_bind_of_ok stored).trans ?_)
  rcases attempt medium state.2 dir manifestFile (Manifest.toJson .indented state.1) with
    ⟨(reason | reason) | -, tree⟩ <;> rfl

theorem isName_manifestFile : TreePath.IsName manifestFile :=
  ⟨by decide, by decide, by decide, by decide⟩

/-! ## Deliveries -/

/-- How writing documents in order ends: behind all of them, or at the first that is refused. -/
inductive WritesEnd : List Document → Except GenerationError PUnit → Prop where
  | all : WritesEnd [] (.ok ⟨⟩)
  | refused {d : Document} {later : List Document} {reason : StorageFailure} :
      WritesEnd (d :: later) (.error (.io reason))

def filePaths (home : TreePath) (documents : List Document) : Set TreePath :=
  {path | ∃ d ∈ documents, path = home ++ [d.fileName]}

theorem filePaths_cons (home : TreePath) (d : Document) (documents : List Document) :
    filePaths home (d :: documents) = {home ++ [d.fileName]} ∪ filePaths home documents := by
  ext path
  simp [filePaths]

/-- Writing documents sets one entry of the directory for each of them, up to the first that is
refused, and changes nothing else but perhaps the file of that one. The induction is on the
documents. -/
theorem perform_writes {documents : List Document}
    (holds : (medium.tree state.2).HoldsAt dir home inside) (plain : inside.Plain)
    (named : ∀ d ∈ documents, TreePath.IsName d.fileName) :
    ∃ written rest answer, ∃ tree : FileTree, ∃ s,
      perform (documents.forM (write medium.storage dir)) state =
        (answer, state.1 ++ written.map entryOf, s) ∧
      documents = written ++ rest ∧ WritesEnd rest answer ∧
      tree.HoldsAt dir home (inside.withDocuments written) ∧
      (medium.tree state.2).SameExcept tree (filePaths home written) ∧
      tree.SameExcept (medium.tree s) (filePaths home (rest.take 1)) ∧
      (rest = [] → medium.tree s = tree) := by
  induction documents generalizing state inside with
  | nil =>
      have done : perform (([] : List Document).forM (write medium.storage dir)) state =
          (.ok ⟨⟩, state.1 ++ [].map entryOf, state.2) := by
        rw [List.map_nil, List.append_nil]
        rfl
      exact ⟨[], [], .ok ⟨⟩, _, state.2, done, rfl, .all, holds, .refl _ _, .refl _ _, fun _ => rfl⟩
  | cons d documents ih =>
      obtain ⟨first, others⟩ := List.forall_mem_cons.mp named
      have step := perform_write medium dir d state
      have same := sameExcept_write holds first plain (medium.mishap? state.2) d.text
      have sequence : (d :: documents).forM (write medium.storage dir) =
          write medium.storage dir d >>= fun _ => documents.forM (write medium.storage dir) := rfl
      rw [sequence]
      rcases result : attempt medium state.2 dir d.fileName d.text with ⟨answer, tree⟩
      rw [result] at step
      rw [← attempt, result] at same
      cases answer with
      | error failure =>
          refine ⟨[], d :: documents, .error (.io failure.reason), _,
            medium.change tree state.2, ?_, rfl, .refused, holds, .refl _ _, ?_, nofun⟩
          · rw [perform_bind_of_error step, List.map_nil, List.append_nil]
          · rw [medium.tree_change, List.take_succ_cons, List.take_zero, filePaths_cons]
            exact same.mono Set.subset_union_left
      | ok _ =>
          let next : List ManifestEntry × σ := (state.1 ++ [entryOf d], medium.change tree state.2)
          have recorded : (medium.tree next.2).HoldsAt dir home
              (inside.setChild d.fileName ⟨.file d.text, .empty⟩) := by
            rw [medium.tree_change]
            exact holdsAt_of_write holds first plain result
          obtain ⟨written, rest, answer, last, s, done, spelled, ends, final, changed, refused,
            all⟩ := ih recorded (plain.setChild d.fileName d.text) others
          rw [show medium.tree next.2 = tree from medium.tree_change tree state.2] at changed
          refine ⟨d :: written, rest, answer, last, s, ?_, congrArg (d :: ·) spelled, ends, final,
            ?_, refused, all⟩
          · rw [perform_bind_of_ok step, done, List.append_assoc]
            rfl
          · rw [filePaths_cons]
            exact same.trans changed

/-- How a delivery ends, by the number of documents to be written and that of failed tasks, the
manifest, the documents that were not written and the text that was written of the manifest. -/
inductive Ending (total failed : Nat) (manifest : List ManifestEntry) :
    List Document → Option String → Except GenerationError Nat → Prop where
  | refused {d : Document} {later : List Document} {reason : StorageFailure} :
      Ending total failed manifest (d :: later) none (.error (.io reason))
  | outside {reason : StorageFailure} : Ending total failed manifest [] none (.error (.io reason))
  | filling {reason : StorageFailure} :
      Ending total failed manifest [] none (.error (.manifest reason))
  | incomplete (failures : 0 < failed) :
      Ending total failed manifest [] (some (Manifest.toJson .indented manifest))
        (.error (.batchFailed failed))
  | complete (passed : failed = 0) :
      Ending total failed manifest [] (some (Manifest.toJson .indented manifest)) (.ok total)

theorem perform_conclude {batch : Batch} {reply : SinkReply} (count : Nat)
    (finished : perform (finish medium.storage dir) state = (reply, after)) :
    perform (batch.conclude (sink medium.storage dir) count) state =
      (batch.conclusion count reply, after) := by
  unfold Batch.conclude Batch.conclusion
  cases reply with
  | error reason => exact perform_bind_of_error finished
  | ok _ =>
      refine (perform_bind_of_ok finished).trans ?_
      by_cases failed : 0 < batch.failed
      · simp only [gt_iff_lt, failed, if_true]
        rfl
      · simp only [gt_iff_lt, failed, if_false]
        rfl

/-- Behind a written manifest, failed tasks decide how a delivery ends. -/
theorem ending_of_conclusion (batch : Batch) (total : Nat) (manifest : List ManifestEntry) :
    Ending total batch.failed manifest [] (some (Manifest.toJson .indented manifest))
      (batch.conclusion total (.ok ())) := by
  unfold Batch.conclusion
  by_cases failed : 0 < batch.failed
  · simp only [failed, if_true]
    exact .incomplete failed
  · simp only [failed, if_false]
    exact .complete (Nat.eq_zero_of_not_pos failed)

/-- The paths that a delivery may leave changed behind the documents that were written: the file of
the one that was refused, or that of the manifest. -/
def lastPaths (home : TreePath) (rest : List Document) : Set TreePath :=
  filePaths home (rest.take 1) ∪ {path | rest = [] ∧ path = home ++ [manifestFile]}

/-- A delivery writes documents and then the manifest, as far as it comes, and changes nothing
else. -/
theorem perform_deliver {batch : Batch} {withIndex : Bool}
    (holds : (medium.tree state.2).HoldsAt dir home inside) (plain : inside.Plain)
    (named : ∀ d ∈ batch.outgoing withIndex, TreePath.IsName d.fileName) :
    ∃ written rest text? answer, ∃ tree : FileTree, ∃ s,
      perform (batch.deliver (sink medium.storage dir) withIndex) state =
        (answer, state.1 ++ written.map entryOf, s) ∧
      batch.outgoing withIndex = written ++ rest ∧
      Ending (batch.outgoing withIndex).length batch.failed (state.1 ++ written.map entryOf) rest
        text? answer ∧
      tree.HoldsAt dir home (inside.withDocuments written) ∧
      (medium.tree state.2).SameExcept tree (filePaths home written) ∧
      tree.SameExcept (medium.tree s) (lastPaths home rest) ∧
      ∀ text ∈ text?, (medium.tree s).HoldsAt dir home
        ((inside.withDocuments written).setChild manifestFile ⟨.file text, .empty⟩) := by
  obtain ⟨written, rest, answer, tree, s, done, spelled, ends, left, changed, refused, last⟩ :=
    perform_writes holds plain named
  rw [Batch.deliver_eq]
  cases ends with
  | refused =>
      exact ⟨written, _, none, _, tree, s, perform_bind_of_error done, spelled, .refused, left,
        changed, refused.mono Set.subset_union_left, nofun⟩
  | all =>
      cases last rfl
      have finished := perform_finish medium dir (state.1 ++ written.map entryOf, s)
      have concluded {reply : SinkReply} {next : List ManifestEntry × σ}
          (replied : perform (finish medium.storage dir) (state.1 ++ written.map entryOf, s) =
            (reply, next)) :
          perform ((batch.outgoing withIndex).forM (sink medium.storage dir).write >>= fun _ =>
            batch.conclude (sink medium.storage dir) (batch.outgoing withIndex).length) state =
              (batch.conclusion (batch.outgoing withIndex).length reply, next) :=
        (perform_bind_of_ok done).trans (perform_conclude _ replied)
      have same := sameExcept_write left isName_manifestFile (plain.withDocuments written)
        (medium.mishap? s) (Manifest.toJson .indented (state.1 ++ written.map entryOf))
      rw [← attempt] at same
      rcases result : attempt medium s dir manifestFile
        (Manifest.toJson .indented (state.1 ++ written.map entryOf)) with ⟨reply, after⟩
      rw [result] at finished same
      have manifest : (medium.tree s).SameExcept (medium.tree (medium.change after s))
          (lastPaths home []) := by
        rw [medium.tree_change]
        refine same.mono fun path member => .inr ⟨rfl, member⟩
      cases reply with
      | error failure =>
          cases failure with
          | outside reason =>
              exact ⟨written, [], none, _, _, _, concluded finished, spelled, .outside, left,
                changed, manifest, nofun⟩
          | filling reason =>
              exact ⟨written, [], none, _, _, _, concluded finished, spelled, .filling, left,
                changed, manifest, nofun⟩
      | ok _ =>
          refine ⟨written, [], some _, _, _, _, concluded finished, spelled,
            ending_of_conclusion batch _ _, left, changed, manifest, ?_⟩
          intro text member
          obtain rfl := Option.some.inj member
          rw [medium.tree_change]
          exact holdsAt_of_write left isName_manifestFile (plain.withDocuments written) result

/-- What a delivery to a directory without entries leaves there. -/
theorem deliver_holds {batch : Batch} {withIndex : Bool} {count : Nat}
    (empty : (medium.tree state.2).Holds dir .empty)
    (named : ∀ d ∈ batch.outgoing withIndex, TreePath.IsName d.fileName)
    (done : perform (batch.deliver (sink medium.storage dir) withIndex) state =
      (.ok count, after)) :
    batch.failed = 0 ∧ count = (batch.outgoing withIndex).length ∧
      ∃ text, (medium.tree after.2).Holds dir
        ((FileTree.empty.withDocuments (batch.outgoing withIndex)).setChild manifestFile
          ⟨.file text, .empty⟩) := by
  obtain ⟨home, holds⟩ := empty.exists_at
  obtain ⟨written, rest, text?, answer, tree, s, performed, spelled, ends, -, -, -, left⟩ :=
    perform_deliver holds plain_empty named
  cases done.symm.trans performed
  cases ends with
  | complete passed =>
      rw [List.append_nil] at spelled
      exact ⟨passed, rfl, _, spelled ▸ (left _ rfl).holds⟩

end Directory

end CurveForge
