import Mathlib
import CurveForge.Batch
import CurveForge.Catalog.Standard
import CurveForge.Proofs.Generation
import CurveForge.Proofs.Source.Lines
import CurveForge.Sink.Memory

/-!
# Batches against any sink

A sink is any state machine that answers writes and its end. A batch writes the
documents of the successful tasks in order, stops at the first refusal, finishes
the sink once behind the last write, and reports failed tasks last of all.
-/

namespace CurveForge

inductive SinkCall where
  | write (d : Document)
  | finish
  deriving DecidableEq

abbrev SinkReply := Except GenerationError Unit

namespace Sink

variable {σ : Type}

def serve (sink : Sink (StateM σ)) (call : SinkCall) (s : σ) : SinkReply × σ :=
  match call with
  | .write d => (sink.write d).run.run s
  | .finish => sink.finish.run.run s

inductive Replies (sink : Sink (StateM σ)) : σ → List (SinkCall × SinkReply) → σ → Prop where
  | nil (s : σ) : Replies sink s [] s
  | cons {s next last : σ} {call : SinkCall} {reply : SinkReply}
      {rest : List (SinkCall × SinkReply)} (served : sink.serve call s = (reply, next))
      (later : Replies sink next rest last) : Replies sink s ((call, reply) :: rest) last

/-- The sink that also keeps a record of its calls and replies. -/
def recorded (sink : Sink (StateM σ)) : Sink (StateM (σ × List (SinkCall × SinkReply))) :=
  let record (call : SinkCall) :
      ExceptT GenerationError (StateM (σ × List (SinkCall × SinkReply))) Unit := fun state =>
    let answer := sink.serve call state.1
    (answer.1, (answer.2, state.2 ++ [(call, answer.1)]))
  ⟨fun d => record (.write d), record .finish⟩

end Sink

section Steps

variable {ε σ α β : Type} {x : ExceptT ε (StateM σ) α} {next : α → ExceptT ε (StateM σ) β} {s t : σ}

theorem run_bind_of_done {value : α} (done : x.run.run s = (.ok value, t)) :
    (x >>= next).run.run s = (next value).run.run t := by
  rw [ExceptT.run_bind, StateT.run_bind, done]
  rfl

theorem run_bind_of_refused {reason : ε} (refused : x.run.run s = (.error reason, t)) :
    (x >>= next).run.run s = (.error reason, t) := by
  rw [ExceptT.run_bind, StateT.run_bind, refused]
  rfl

end Steps

/-- The calls that write documents in order, up to the first refusal. -/
inductive Writes (documents : List Document) : List (SinkCall × SinkReply) → SinkReply → Prop where
  | refused {before after : List Document} {d : Document} {reason : GenerationError}
      (position : documents = before ++ d :: after) :
      Writes documents (before.map (fun d => (.write d, .ok ())) ++ [(.write d, .error reason)])
        (.error reason)
  | all : Writes documents (documents.map fun d => (.write d, .ok ())) (.ok ())

namespace Sink

variable {σ : Type} {sink : Sink (StateM σ)}

theorem Replies.append {s middle last : σ} {first second : List (SinkCall × SinkReply)}
    (earlier : Replies sink s first middle) (later : Replies sink middle second last) :
    Replies sink s (first ++ second) last := by
  induction earlier with
  | nil => exact later
  | cons served _ ih => exact .cons served (ih later)

/-- Writing documents goes the same way with and without a record, and the record is complete.
The induction is on the documents; each write is one reply of the sink. -/
theorem writes_run (sink : Sink (StateM σ)) (documents : List Document) (s : σ)
    (record : List (SinkCall × SinkReply)) :
    ∃ calls reply next,
      (documents.forM sink.write).run.run s = (reply, next) ∧
      (documents.forM sink.recorded.write).run.run (s, record) = (reply, (next, record ++ calls)) ∧
      Replies sink s calls next ∧ Writes documents calls reply := by
  induction documents generalizing s record with
  | nil => exact ⟨[], .ok (), s, rfl, by rw [List.append_nil]; rfl, .nil s, .all⟩
  | cons d rest ih =>
      rcases served : sink.serve (.write d) s with ⟨reply, next⟩
      have recorded : (sink.recorded.write d).run.run (s, record) =
          (reply, (next, record ++ [(.write d, reply)])) := by
        change ((sink.serve (.write d) s).1, (sink.serve (.write d) s).2,
          record ++ [(SinkCall.write d, (sink.serve (.write d) s).1)]) = _
        rw [served]
      cases reply with
      | error reason =>
          have position : d :: rest = [] ++ d :: rest := rfl
          refine ⟨[(.write d, .error reason)], .error reason, next, ?_, ?_,
            .cons served (.nil next), .refused position⟩
          · exact run_bind_of_refused served
          · exact run_bind_of_refused recorded
      | ok _ =>
          obtain ⟨calls, reply, last, plain, kept, replies, writes⟩ :=
            ih next (record ++ [(.write d, .ok ())])
          refine ⟨(.write d, .ok ()) :: calls, reply, last, ?_, ?_, .cons served replies, ?_⟩
          · exact (run_bind_of_done served).trans plain
          · rw [List.append_assoc] at kept
            exact (run_bind_of_done recorded).trans kept
          · cases writes with
            | @refused before after other reason position =>
                have longer : d :: rest = (d :: before) ++ other :: after := by
                  rw [position, List.cons_append]
                exact .refused longer
            | all => exact .all

end Sink

/-! ## Whole deliveries -/

/-- The calls of a delivery with their replies, and its answer. -/
inductive Delivery (outgoing : List Document) (failed : Nat) :
    List (SinkCall × SinkReply) → Except GenerationError Nat → Prop where
  | refused {before after : List Document} {d : Document} {reason : GenerationError}
      (position : outgoing = before ++ d :: after) :
      Delivery outgoing failed
        (before.map (fun d => (.write d, .ok ())) ++ [(.write d, .error reason)]) (.error reason)
  | unfinished (reason : GenerationError) :
      Delivery outgoing failed
        (outgoing.map (fun d => (.write d, .ok ())) ++ [(.finish, .error reason)]) (.error reason)
  | incomplete (some : 0 < failed) :
      Delivery outgoing failed (outgoing.map (fun d => (.write d, .ok ())) ++ [(.finish, .ok ())])
        (.error (.batchFailed failed))
  | complete (none : failed = 0) :
      Delivery outgoing failed (outgoing.map (fun d => (.write d, .ok ())) ++ [(.finish, .ok ())])
        (.ok outgoing.length)

namespace Batch

variable {σ : Type}

/-- Behind the last write, a batch is finished and then tells whether tasks have failed. -/
def conclude {m : Type → Type} [Monad m] (batch : Batch) (sink : Sink m) (count : Nat) :
    ExceptT GenerationError m Nat := do
  sink.finish
  if batch.failed > 0 then throw (.batchFailed batch.failed)
  return count

theorem deliver_eq {m : Type → Type} [Monad m] (batch : Batch) (sink : Sink m) (withIndex : Bool) :
    batch.deliver sink withIndex =
      (batch.outgoing withIndex).forM sink.write >>= fun _ =>
        batch.conclude sink (batch.outgoing withIndex).length := rfl

def conclusion (batch : Batch) (count : Nat) : SinkReply → Except GenerationError Nat
  | .error reason => .error reason
  | .ok _ => if 0 < batch.failed then .error (.batchFailed batch.failed) else .ok count

theorem run_conclude {sink : Sink (StateM σ)} (batch : Batch) (count : Nat) {s next : σ}
    {reply : SinkReply} (served : sink.finish.run.run s = (reply, next)) :
    (batch.conclude sink count).run.run s = (batch.conclusion count reply, next) := by
  unfold conclude conclusion
  cases reply with
  | error reason => exact run_bind_of_refused served
  | ok _ =>
      rw [run_bind_of_done served]
      by_cases failed : 0 < batch.failed
      · simp only [gt_iff_lt, failed, if_true]
        rfl
      · simp only [gt_iff_lt, failed, if_false]
        rfl

/-- A delivery goes the same way with and without a record, and the record is complete. -/
theorem deliver_run (batch : Batch) (sink : Sink (StateM σ)) (withIndex : Bool) (s : σ) :
    ∃ calls answer next,
      (batch.deliver sink withIndex).run.run s = (answer, next) ∧
      (batch.deliver sink.recorded withIndex).run.run (s, []) = (answer, (next, calls)) ∧
      sink.Replies s calls next ∧
      Delivery (batch.outgoing withIndex) batch.failed calls answer := by
  obtain ⟨calls, reply, middle, plain, kept, replies, writes⟩ :=
    sink.writes_run (batch.outgoing withIndex) s []
  rw [List.nil_append] at kept
  rw [deliver_eq, deliver_eq]
  cases writes with
  | @refused before after d reason position =>
      exact ⟨_, .error reason, middle, run_bind_of_refused plain, run_bind_of_refused kept, replies,
        .refused position⟩
  | all =>
      rcases served : sink.serve .finish middle with ⟨reply, next⟩
      have recorded (record : List (SinkCall × SinkReply)) :
          sink.recorded.finish.run.run (middle, record) =
            (reply, (next, record ++ [(.finish, reply)])) := by
        change ((sink.serve .finish middle).1, (sink.serve .finish middle).2,
          record ++ [(SinkCall.finish, (sink.serve .finish middle).1)]) = _
        rw [served]
      refine ⟨_, _, next, (run_bind_of_done plain).trans (run_conclude batch _ served),
        (run_bind_of_done kept).trans (run_conclude batch _ (recorded _)),
        replies.append (.cons served (.nil next)), ?_⟩
      unfold conclusion
      cases reply with
      | error reason => exact .unfinished reason
      | ok _ =>
          by_cases failed : 0 < batch.failed
          · simp only [failed, if_true]
            exact .incomplete failed
          · simp only [failed, if_false]
            exact .complete (Nat.eq_zero_of_not_pos failed)

end Batch

/-- The index declares the module of every document and exports what it defines. -/
theorem lines_moduleIndex (documents : List Document) :
    (moduleIndex documents).lines =
      [Source.commentText generatedNotice, ""] ++
        documents.map (fun d => "mod " ++ d.moduleName ++ ";") ++ [""] ++
        documents.map (fun d => "pub use " ++ d.moduleName ++ "::" ++ d.name ++ ";") := by
  rw [moduleIndex, Source.lines_eq_linesAt]
  simp [Source.linesAt, Source.comment, Function.comp_def]

/-- The document of a successful task is among those of the batch. -/
theorem mem_documents_of_task {catalog : Catalog} {results : List (Except TaskError Document)}
    (generated : generateAll catalog = .ok results) {task : GenerationTask}
    (member : task ∈ catalog.tasks) {d : Document}
    (success : (generateType catalog task.family task.dimension).run = .ok (.ok d)) :
    d ∈ (Batch.ofResults results).documents := by
  obtain ⟨i, bound, rfl⟩ := List.getElem_of_mem member
  have related := Checked.mapM_eq_ok_iff.mp generated
  have inside : i < results.length := related.length_eq ▸ bound
  have result := related.get bound inside
  rw [List.get_eq_getElem, runTask, success] at result
  have entry : Except.ok d = results.get ⟨i, inside⟩ := Except.ok.inj result
  refine List.mem_filterMap.mpr ⟨.ok d, ?_, rfl⟩
  rw [entry]
  exact List.get_mem _ _

/-! ## Tasks and their documents -/

def Catalog.generated (catalog : Catalog) : List (Dimension × Family) :=
  Dimension.all ×ˢ catalog.families

theorem tasks_eq (catalog : Catalog) :
    catalog.tasks = catalog.generated.map fun p => ⟨p.2, p.1.number⟩ := by
  simp [Catalog.tasks, Catalog.generated, SProd.sprod, List.product, List.map_flatMap,
    Function.comp_def]

theorem mem_generated_iff {catalog : Catalog} {p : Dimension × Family} :
    p ∈ catalog.generated ↔ p.2 ∈ catalog.families := by
  have every : p.1 ∈ Dimension.all := by cases p.1 <;> decide
  exact List.mem_product.trans (and_iff_right every)

theorem generateType_of_runTask {catalog : Catalog} {task : GenerationTask} {d : Document}
    (result : runTask catalog task = .ok (.ok d)) :
    (generateType catalog task.family task.dimension).run = .ok (.ok d) := by
  obtain ⟨answer, answered, mapped⟩ := Checked.bind_eq_ok_iff.mp result
  rw [answered]
  cases answer with
  | error reason => cases mapped
  | ok value =>
      cases mapped
      rfl

/-- Every document of a batch is that of a family in a dimension. -/
theorem exists_task_of_mem_documents {catalog : Catalog}
    {results : List (Except TaskError Document)} (generated : generateAll catalog = .ok results)
    {d : Document} (member : d ∈ results.filterMap Except.toOption) :
    ∃ p ∈ catalog.generated, (generateType catalog p.2 p.1.number).run = .ok (.ok d) := by
  obtain ⟨result, listed, answer⟩ := List.mem_filterMap.mp member
  cases result with
  | error reason => cases answer
  | ok value =>
      cases answer
      have related := Checked.mapM_eq_ok_iff.mp generated
      obtain ⟨task, taskListed, ran⟩ := exists_of_forall₂_of_mem related listed
      rw [tasks_eq] at taskListed
      obtain ⟨p, pairListed, rfl⟩ := List.mem_map.mp taskListed
      exact ⟨p, pairListed, generateType_of_runTask ran⟩

/-- When no task fails, there is a document for every family in every dimension. -/
theorem documents_of_generateAll {catalog : Catalog} {documents : List Document}
    (generated : generateAll catalog = .ok (documents.map .ok)) :
    List.Forall₂ (fun p document =>
      (generateType catalog p.2 p.1.number).run = .ok (.ok document)) catalog.generated
      documents := by
  have related := Checked.mapM_eq_ok_iff.mp generated
  rw [tasks_eq, List.forall₂_map_left_iff, List.forall₂_map_right_iff] at related
  exact related.imp fun p document ran => generateType_of_runTask ran

/-- Results without a failure are those of their documents. -/
theorem results_eq_map_of_all {results : List (Except TaskError Document)}
    (all : ∀ result ∈ results, result.toOption.isSome = true) :
    results = (results.filterMap Except.toOption).map .ok := by
  induction results with
  | nil => rfl
  | cons result rest ih =>
      obtain ⟨here, later⟩ := List.forall_mem_cons.mp all
      cases result with
      | error reason => cases here
      | ok document => exact congrArg (Except.ok document :: ·) (ih later)

theorem results_eq_map_of_failed {results : List (Except TaskError Document)}
    (none : (Batch.ofResults results).failed = 0) :
    results = (results.filterMap Except.toOption).map .ok := by
  apply results_eq_map_of_all
  intro result member
  have passed := List.countP_eq_zero.mp none result member
  cases result with
  | error reason => exact absurd rfl passed
  | ok document => rfl

theorem exists_documents {catalog : Catalog}
    (answered : ((generateAll catalog).toOption.any fun results =>
      results.all fun result => result.toOption.isSome) = true) :
    ∃ documents : List Document, generateAll catalog = .ok (documents.map .ok) := by
  cases generated : generateAll catalog with
  | error fault =>
      rw [generated] at answered
      cases answered
  | ok results =>
      rw [generated] at answered
      exact ⟨_, congrArg _ (results_eq_map_of_all (List.all_eq_true.mp answered))⟩

/-- Against any sink, a batch writes the documents of the successful tasks in order and the index
behind them, as its delivery tells; a failed task keeps no document of another task back. -/
theorem regenerate_delivers {σ : Type} {catalog : Catalog}
    {results : List (Except TaskError Document)} (generated : generateAll catalog = .ok results)
    (sink : Sink (StateM σ)) (withIndex : Bool) (s : σ) :
    let documents := results.filterMap Except.toOption
    let failed := results.countP fun result => result.toOption.isNone
    (∃ plain recorded calls answer next,
      regenerate catalog sink withIndex = .ok plain ∧
      regenerate catalog sink.recorded withIndex = .ok recorded ∧
      plain.run.run s = (answer, next) ∧
      recorded.run.run (s, []) = (answer, (next, calls)) ∧
      sink.Replies s calls next ∧
      Delivery (documents ++ if withIndex then [moduleIndex documents] else []) failed calls
        answer) ∧
    (∀ task ∈ catalog.tasks, ∀ d,
      (generateType catalog task.family task.dimension).run = .ok (.ok d) → d ∈ documents) ∧
    (moduleIndex documents).lines =
      [Source.commentText generatedNotice, ""] ++
        documents.map (fun d => "mod " ++ d.moduleName ++ ";") ++ [""] ++
        documents.map (fun d => "pub use " ++ d.moduleName ++ "::" ++ d.name ++ ";") := by
  intro documents failed
  refine ⟨?_, fun task member d success => mem_documents_of_task generated member success,
    lines_moduleIndex documents⟩
  have outgoing : (Batch.ofResults results).outgoing withIndex =
      documents ++ if withIndex then [moduleIndex documents] else [] := by
    cases withIndex with
    | false => exact (List.append_nil _).symm
    | true => rfl
  obtain ⟨calls, answer, next, plain, recorded, replies, delivery⟩ :=
    (Batch.ofResults results).deliver_run sink withIndex s
  rw [outgoing] at delivery
  refine ⟨_, _, calls, answer, next, ?_, ?_, plain, recorded, replies, delivery⟩
  · rw [regenerate, generated]
    rfl
  · rw [regenerate, generated]
    rfl

namespace Catalog

def sextic : Family :=
  { bezierQuadratic with
    degree := 6
    matrix := ⟨7, Grid.identity 7⟩
    pointNames := ["a", "b", "c", "d", "e", "f", "g"]
    pointDescriptions := List.replicate 7 "A point" }

theorem sextic_valid : sextic.validate = pure () := by rfl

theorem bezierQuadratic_valid : bezierQuadratic.validate = pure () := by rfl

def partlySupported : Catalog :=
  ⟨[⟨sextic, sextic_valid⟩, ⟨bezierQuadratic, bezierQuadratic_valid⟩]⟩

end Catalog

/-- Three tasks fail, and a shelf refuses the second document. -/
theorem regenerate_delivers_partly :
    ∃ results, generateAll Catalog.partlySupported = .ok results ∧
      results.countP (fun result => result.toOption.isNone) = 3 ∧
      ∃ plain calls answer next,
        regenerate Catalog.partlySupported (Shelf.refusing (some 1) (.unsupportedDegree 6)) true =
          .ok plain ∧
        plain.run.run Shelf.empty = (answer, next) ∧
        Delivery (results.filterMap Except.toOption ++
          [moduleIndex (results.filterMap Except.toOption)]) 3 calls answer := by
  have counted : (generateAll Catalog.partlySupported).toOption.map
      (List.countP fun result => result.toOption.isNone) = some 3 := by decide +kernel
  cases generated : generateAll Catalog.partlySupported with
  | error fault =>
      rw [generated] at counted
      cases counted
  | ok results =>
      rw [generated] at counted
      have failures := Option.some.inj counted
      obtain ⟨⟨plain, -, calls, answer, next, result, -, run, -, -, delivery⟩, -⟩ :=
        regenerate_delivers generated (Shelf.refusing (some 1) (.unsupportedDegree 6)) true
          Shelf.empty
      rw [failures] at delivery
      exact ⟨results, rfl, failures, plain, calls, answer, next, result, run, delivery⟩

end CurveForge
