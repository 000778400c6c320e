import Mathlib
import CurveForge.Proofs.Document.Tidy
import CurveForge.Proofs.Naming.Module
import CurveForge.Proofs.Sink.Complete
import CurveForge.Proofs.Source.LineBreaks

/-!
# Lines of documents

No text that is written into a document has a line break unless the family brings
one with it. The lines of a document are therefore those of its text, and a
directory that records how many lines a document has records how many its file has.
-/

namespace CurveForge

open Source Phrase

theorem OneLine.lowercase {text : String} (one : OneLine text) : OneLine (Text.lowercase text) := by
  intro member
  rcases Text.mem_or_isLowered member with own | lowered
  · exact one own
  · revert lowered
    decide

theorem OneLine.moduleName {name : String} (one : OneLine name) : OneLine (moduleName name) :=
  notMem_moduleName (by decide) (by decide) one

theorem Family.oneLine_typeName {f : Family} {d : Dimension} {name : String} (one : OneLine f.id)
    (named : f.typeName d.number = .ok name) : OneLine name := by
  intro member
  rcases mem_typeName named member with own | alphanumeric
  · exact one own
  · cases alphanumeric

@[simp]
theorem oneLine_wordText (n : Int64) : OneLine (Fraction.wordText n) := by
  unfold Fraction.wordText
  cases n.toInt with
  | ofNat m => exact OneLine.repr_nat m
  | negSucc m =>
      change OneLine ("-" ++ (m + 1).repr)
      simp (disch := exact OneLine.lit rfl)

@[simp]
theorem oneLine_styledText (style : NumberStyle) (n : Int64) : OneLine (style.wordText n) := by
  cases style <;> simp (disch := exact OneLine.lit rfl) [NumberStyle.wordText]

@[simp]
theorem Literal.oneLine_text (literal : Literal) : OneLine literal.text := by
  cases literal <;> simp (disch := exact OneLine.lit rfl) [Literal.text]

namespace SignedTerm

variable {term : SignedTerm} {terms : List SignedTerm}

theorem oneLine_text (first : Bool) (one : OneLine term.name) : OneLine (term.text first) := by
  have sign : OneLine (term.signText first) := by
    unfold signText
    split
    · exact .lit rfl
    · split <;> exact .lit rfl
  have factor : OneLine term.factorText := by
    unfold factorText
    split
    · simp (disch := exact OneLine.lit rfl)
    · exact .lit rfl
  simp [text, sign, factor, one]

theorem oneLine_rowText (each : ∀ term ∈ terms, OneLine term.name) : OneLine (rowText terms) := by
  cases terms with
  | nil => exact .lit rfl
  | cons first rest =>
      obtain ⟨here, later⟩ := List.forall_mem_cons.mp each
      have others := fun term member => oneLine_text false (later term member)
      simpa [rowText, oneLine_text true here] using others

end SignedTerm

theorem Formula.oneLine_text {formula : Formula}
    (each : ∀ term ∈ formula.terms, OneLine term.name) : OneLine formula.text := by
  cases formula with
  | zero => exact .lit rfl
  | sum terms => exact SignedTerm.oneLine_rowText each
  | divided terms divisor =>
      have row : OneLine (SignedTerm.rowText terms) := SignedTerm.oneLine_rowText each
      simp (disch := exact OneLine.lit rfl) [text, row]
  | multiplied factor terms =>
      have row : OneLine (SignedTerm.rowText terms) := SignedTerm.oneLine_rowText each
      simp (disch := exact OneLine.lit rfl) [text, row]

namespace PointFormulas

structure SingleLined (p : PointFormulas) : Prop where
  pattern : ∀ entry ∈ p.pattern, ∀ name ∈ entry, OneLine name
  formulas : ∀ formula ∈ p.formulas, OneLine formula.text

variable {p : PointFormulas} {m : SquareMatrix} {names : List String}

theorem SingleLined.patternText (single : p.SingleLined) : OneLine p.patternText := by
  have entries : ∀ entry ∈ p.pattern, OneLine (entry.getD "_") := by
    intro entry member
    cases entry with
    | none => exact .lit rfl
    | some name => exact single.pattern _ member name rfl
  have separator : OneLine ", " := .lit rfl
  simpa (disch := exact OneLine.lit rfl) [PointFormulas.patternText,
    OneLine.intercalate_iff separator] using entries

theorem singleLined_ofMatrix (each : ∀ name ∈ names, OneLine name)
    (written : ofMatrix m names = .ok p) : p.SingleLined := by
  obtain ⟨used, result⟩ := parts_of_ofMatrix written
  constructor
  · rintro entry listed name rfl
    exact each name (mem_of_usedNames used listed)
  · exact fun formula member => Formula.oneLine_text fun term inside =>
      each _ (SquareMatrix.name_mem_of_formulas result member inside)

end PointFormulas

/-! ## Sections -/

namespace Dimension

variable (d : Dimension)

@[simp]
theorem oneLine_text : OneLine d.text := by
  simp (disch := exact OneLine.lit rfl) [text]

@[simp]
theorem oneLine_point : OneLine d.point := by
  cases d <;> exact .lit rfl

@[simp]
theorem oneLine_polynomial : OneLine d.polynomial := by
  cases d <;> exact .lit rfl

@[simp]
theorem oneLine_segmentTrait : OneLine d.segmentTrait := by
  cases d <;> exact .lit rfl

@[simp]
theorem oneLine_lerp : OneLine d.lerp := by
  cases d <;> exact .lit rfl

theorem oneLine_vector {vector : String} (chosen : d.vector? = some vector) : OneLine vector := by
  cases d <;> cases chosen <;> exact .lit rfl

theorem oneLine_component {c : String} (member : c ∈ d.components) : OneLine c := by
  have each : ∀ d : Dimension, ∀ c ∈ d.components, OneLine c := by
    intro d
    cases d <;> decide
  exact each d c member

end Dimension

theorem PointBinding.singleLined_statement {p : PointBinding} (d : Dimension)
    (name : OneLine p.name) (first : OneLine p.first) (second : OneLine p.second) :
    (p.statement d).SingleLined := by
  unfold statement
  split
  next => simp (disch := exact OneLine.lit rfl) [blendText, name, first, second]
  next vector chosen =>
    have component : ∀ c ∈ d.components, OneLine c := fun c => d.oneLine_component
    simp +contextual (disch := first | assumption | exact OneLine.lit rfl)
      [blendText, name, first, second, d.oneLine_vector chosen, component]

namespace Blueprint

/-- No name and no text of a blueprint has a line break. -/
structure SingleLined (b : Blueprint) : Prop where
  name : OneLine b.name
  degreeWord : OneLine b.degreeWord
  displayWord : OneLine b.displayWord
  points : ∀ p ∈ b.points, OneLine p.name ∧ OneLine p.description
  curve : b.curve.SingleLined
  spherical : ∀ ends ∈ b.spherical, OneLine ends.first ∧ OneLine ends.last
  castTarget : ∀ target ∈ b.castTarget, OneLine target
  conversions : ∀ c ∈ b.conversions, OneLine c.target ∧ c.formulas.SingleLined

theorem singleLined_siblingImport {names : List String} (each : ∀ name ∈ names, OneLine name) :
    (siblingImport names).SingleLined := by
  unfold siblingImport
  split
  next => trivial
  next name => simpa (disch := exact OneLine.lit rfl) using each
  next => simpa (disch := exact OneLine.lit rfl) using each

theorem singleLined_vectorImports (d : Dimension) : (vectorImports d).SingleLined := by
  unfold vectorImports
  split
  next vector chosen => simp (disch := exact OneLine.lit rfl) [d.oneLine_vector chosen]
  next => trivial

@[simp]
theorem singleLined_callWith {opening closing : String} {arguments : List String} :
    (callWith opening closing arguments).SingleLined ↔
      OneLine opening ∧ (∀ argument ∈ arguments, OneLine argument) ∧ OneLine closing := by
  simp [callWith, and_assoc]

theorem singleLined_splitBody (d : Dimension) {points : List String}
    (each : ∀ point ∈ points, OneLine point) : (splitBody d points).SingleLined := by
  have letters : ∀ name ∈ "p" :: PointBinding.letters, OneLine name := by decide +kernel
  have bindings : ∀ p ∈ (PointBinding.rows points).flatten, (p.statement d).SingleLined := by
    intro p member
    obtain ⟨name, first, second⟩ := PointBinding.holds_rows letters each p member
    exact PointBinding.singleLined_statement d name first second
  obtain ⟨firstHalf, secondHalf⟩ := holds_splitHalves letters each
  have text : (splitBody d points).SingleLined ↔ (concat [
      .line ("let " ++ brackets (commas points) ++ " = self.points();"),
      concat ((PointBinding.rows points).flatten.map (PointBinding.statement d)),
      .line (parens ("Self::new" ++ parens (commas (splitHalves points).1) ++
        ", Self::new" ++ parens (commas (splitHalves points).2)))]).SingleLined := Iff.rfl
  rw [text]
  simp (disch := exact OneLine.lit rfl) only [singleLined_concat, List.forall_mem_cons,
    List.forall_mem_map, List.not_mem_nil, false_implies, implies_true, Source.SingleLined,
    OneLine.append_iff, OneLine.parens_iff, OneLine.brackets_iff, OneLine.commas_iff,
    OneLine.iff_true, true_and, and_true]
  exact ⟨each, bindings, firstHalf, secondHalf⟩

section Sections

variable {b : Blueprint} (single : b.SingleLined)

include single

theorem SingleLined.pointNames : ∀ p ∈ b.pointNames, OneLine p :=
  List.forall_mem_map.mpr fun p member => (single.points p member).1

theorem SingleLined.characterization : OneLine b.characterization := by
  simp (disch := exact OneLine.lit rfl)
    [Blueprint.characterization, single.degreeWord, single.displayWord]

theorem SingleLined.relatedTypes : ∀ name ∈ b.relatedTypes, OneLine name := by
  intro name member
  rcases b.mem_relatedTypes_iff.mp member with cast | ⟨c, listed, rfl⟩
  · exact single.castTarget name cast
  · exact (single.conversions c listed).1

theorem SingleLined.imports : b.imports.SingleLined := by
  simp (disch := exact OneLine.lit rfl) [Blueprint.imports, generatedNotice,
    singleLined_vectorImports, singleLined_siblingImport single.relatedTypes]

theorem SingleLined.definition : b.definition.SingleLined := by
  simp +contextual (disch := first | assumption | exact OneLine.lit rfl) [Blueprint.definition,
    pointCountText, single.characterization, single.name, single.pointNames]

theorem SingleLined.constructor : b.constructor.SingleLined := by
  simp +contextual (disch := first | assumption | exact OneLine.lit rfl) [Blueprint.constructor,
    parameterHeading, parameterDoc, docSeparator, pointCountText, single.characterization,
    single.pointNames, single.points]

theorem SingleLined.curveFunction : b.curveFunction.SingleLined := by
  simp +contextual (disch := first | assumption | exact OneLine.lit rfl) [Blueprint.curveFunction,
    single.degreeWord, single.curve.patternText, single.curve.formulas]

theorem SingleLined.pointsFunction : b.pointsFunction.SingleLined := by
  simp +contextual (disch := first | assumption | exact OneLine.lit rfl) [Blueprint.pointsFunction,
    single.pointNames]

theorem SingleLined.indexMatch {arm : String → String} {otherwise : String}
    (each : ∀ p, OneLine p → OneLine (arm p)) (other : OneLine otherwise) :
    (b.indexMatch arm otherwise).SingleLined := by
  have arms (p : String) (i : Nat) (member : (p, i) ∈ b.pointNames.zipIdx) : OneLine (arm p) :=
    each p (single.pointNames p (List.fst_mem_of_mem_zipIdx member))
  simpa (disch := exact OneLine.lit rfl) [Blueprint.indexMatch, other] using arms

theorem SingleLined.controlPoints : b.controlPoints.SingleLined := by
  have range : OneLine b.outOfRange := by
    unfold outOfRange
    simp (disch := exact OneLine.lit rfl)
  have read : (b.indexMatch (fun p => "Ok(self." ++ p ++ ")") b.outOfRange).SingleLined :=
    single.indexMatch (fun p one => by simpa (disch := exact OneLine.lit rfl) using one) range
  have replaced : (b.indexMatch (fun p => "self.set_" ++ p ++ "(value)")
      ("return " ++ b.outOfRange)).SingleLined :=
    single.indexMatch (fun p one => by simpa (disch := exact OneLine.lit rfl) using one)
      (by simp (disch := exact OneLine.lit rfl) [range])
  simp +contextual (disch := first | assumption | exact OneLine.lit rfl) [Blueprint.controlPoints,
    pointAccess, pointByIndex, setPointByIndex, indexDoc, single.points, read, replaced]

theorem SingleLined.lerpFunction : b.lerpFunction.SingleLined := by
  simp +contextual (disch := first | assumption | exact OneLine.lit rfl) [Blueprint.lerpFunction,
    blendDoc, parameterHeading, parameterDoc, docSeparator, pointBlend, single.displayWord,
    single.pointNames]

theorem SingleLined.slerpFunction {ends : EndPoints} (chosen : b.spherical = some ends) :
    (b.slerpFunction ends).SingleLined := by
  obtain ⟨first, last⟩ := single.spherical ends chosen
  have tangent (p anchor : String) (named : OneLine p) (anchored : OneLine anchor) :
      OneLine (b.tangentBlend p anchor) := by
    unfold tangentBlend
    split <;> simp (disch := exact OneLine.lit rfl) [named, anchored]
  have inner (p : String) (i : Nat) (member : (p, i) ∈ b.innerPoints) :
      OneLine (if 2 * i ≤ b.degree then ends.first else ends.last) ∧
        OneLine (b.tangentBlend p (if 2 * i ≤ b.degree then ends.first else ends.last)) := by
    have named := single.pointNames p
      (List.fst_mem_of_mem_zipIdx (List.mem_of_mem_take (List.mem_of_mem_drop member)))
    split
    · exact ⟨first, tangent p ends.first named first⟩
    · exact ⟨last, tangent p ends.last named last⟩
  simpa +contextual (disch := first | assumption | exact OneLine.lit rfl) [Blueprint.slerpFunction,
    blendDoc, parameterHeading, parameterDoc, docSeparator, pointBlend, single.displayWord, first,
    last] using inner

theorem SingleLined.splitFunction : b.splitFunction.SingleLined := by
  simp (disch := exact OneLine.lit rfl) [Blueprint.splitFunction, parameterHeading, parameterDoc,
    docSeparator, singleLined_splitBody b.dimension single.pointNames]

theorem SingleLined.inherentImplementation : b.inherentImplementation.SingleLined := by
  have spherical :
      (b.spherical.elim .nothing fun ends => .blank ++ b.slerpFunction ends).SingleLined := by
    cases chosen : b.spherical with
    | none => trivial
    | some ends => simp [single.slerpFunction chosen]
  simp (disch := exact OneLine.lit rfl) [Blueprint.inherentImplementation, single.name,
    single.constructor, single.curveFunction, single.pointsFunction, single.controlPoints,
    single.lerpFunction, spherical, single.splitFunction]

theorem SingleLined.traitImplementations : b.traitImplementations.SingleLined := by
  have panic : OneLine b.indexPanic := by
    unfold indexPanic
    simp (disch := exact OneLine.lit rfl)
  have indexed : (b.indexMatch (fun p => "&self." ++ p) b.indexPanic).SingleLined :=
    single.indexMatch (fun p one => by simpa (disch := exact OneLine.lit rfl) using one) panic
  have hashed : ∀ line ∈ hashLines b.dimension, OneLine line := by
    cases b.dimension <;> decide +kernel
  have all {items : List String} :
      OneLine (" && ".intercalate items) ↔ ∀ item ∈ items, OneLine item :=
    OneLine.intercalate_iff (.lit rfl)
  simp +contextual (disch := first | assumption | exact OneLine.lit rfl)
    [Blueprint.traitImplementations, implementation, segmentImplementation, indexImplementation,
    equalityImplementation, hashImplementation, displayImplementation, indexed, hashed, single.name,
    single.pointNames, all]

theorem SingleLined.dimensionCast : b.dimensionCast.SingleLined := by
  unfold Blueprint.dimensionCast
  cases chosen : b.castTarget with
  | none => trivial
  | some target =>
      have known := single.castTarget target chosen
      cases b.dimension <;>
        simp +contextual (disch := first | assumption | exact OneLine.lit rfl) [conversionInto,
          implementation, castBody, known, single.name, single.pointNames]

theorem SingleLined.basisConversions : b.basisConversions.SingleLined := by
  have each : ∀ c ∈ b.conversions, (b.basisConversion c).SingleLined := by
    intro c member
    obtain ⟨known, formulas⟩ := single.conversions c member
    simp +contextual (disch := first | assumption | exact OneLine.lit rfl) [basisConversion,
      conversionInto, implementation, known, single.name, formulas.patternText, formulas.formulas]
  simpa [Blueprint.basisConversions] using each

theorem SingleLined.source : b.source.SingleLined := by
  simp [Blueprint.source, single.imports, single.definition, single.inherentImplementation,
    single.traitImplementations, single.dimensionCast, single.basisConversions]

end Sections

end Blueprint

/-! ## Families and their documents -/

structure Family.SingleLined (f : Family) : Prop where
  id : OneLine f.id
  display : OneLine f.display
  pointNames : ∀ name ∈ f.pointNames, OneLine name
  pointDescriptions : ∀ text ∈ f.pointDescriptions, OneLine text

namespace Blueprint

variable {catalog : Catalog} {f : Family} {d : Dimension} {b : Blueprint} {number : Nat}

theorem Describes.singleLined (describes : b.Describes catalog f number)
    (catalogIds : ∀ g ∈ catalog.families, OneLine g.id) (single : f.SingleLined) :
    b.SingleLined := by
  have degreeWords : ∀ word ∈ ["linear", "quadratic", "cubic", "quartic", "quintic"],
      OneLine word := by decide
  refine { name := Family.oneLine_typeName single.id describes.typeName,
           degreeWord := degreeWords _ describes.degreeWord_mem, displayWord := ?_, points := ?_,
           curve := PointFormulas.singleLined_ofMatrix single.pointNames describes.curve,
           spherical := ?_, castTarget := ?_, conversions := ?_ }
  · rw [describes.displayWord]
    exact single.display.lowercase
  · intro p member
    obtain ⟨named, described⟩ := describes.mem_of_mem_points member
    exact ⟨single.pointNames _ named, single.pointDescriptions _ described⟩
  · intro ends chosen
    obtain ⟨first, last⟩ := describes.mem_of_mem_spherical chosen
    exact ⟨single.pointNames _ first, single.pointNames _ last⟩
  · intro target chosen
    obtain ⟨other, named⟩ := describes.exists_typeName_of_mem_castTarget chosen
    exact Family.oneLine_typeName single.id named
  · intro c member
    obtain ⟨target, listed, converted⟩ := describes.exists_target member
    obtain ⟨named, matrix, -, written⟩ := parts_of_conversionTo converted
    have id := catalogIds target (mem_conversionTargets_iff.mp listed).1
    exact ⟨Family.oneLine_typeName id named,
      PointFormulas.singleLined_ofMatrix single.pointNames written⟩

end Blueprint

structure Document.SingleLined (d : Document) : Prop where
  name : OneLine d.name
  moduleName : OneLine d.moduleName
  nonempty : d.lines ≠ []
  lines : ∀ line ∈ d.lines, OneLine line

theorem Blueprint.SingleLined.document {b : Blueprint} (single : b.SingleLined) :
    b.document.SingleLined where
  name := single.name
  moduleName := single.name.moduleName
  nonempty := by
    rw [Blueprint.document, lines_eq_linesAt]
    simp [Blueprint.source, Blueprint.imports, comment, linesAt]
  lines _ member := single.source.oneLine_of_mem_lines member

/-- The index of documents declares and exports what they are called. -/
theorem singleLined_moduleIndex {documents : List Document}
    (each : ∀ d ∈ documents, d.SingleLined) : (moduleIndex documents).SingleLined := by
  have source : (concat [comment generatedNotice, .blank,
      ofLines (documents.map fun d => "mod " ++ d.moduleName ++ ";"), .blank,
      ofLines (documents.map fun d => "pub use " ++ d.moduleName ++ "::" ++ d.name ++ ";")]
      ).SingleLined := by
    have names : ∀ d ∈ documents, OneLine d.name := fun d member => (each d member).name
    have modules : ∀ d ∈ documents, OneLine d.moduleName := fun d member =>
      (each d member).moduleName
    simp +contextual (disch := first | assumption | exact OneLine.lit rfl) [generatedNotice, names,
      modules]
  refine ⟨.lit rfl, .lit rfl, ?_, fun _ member => source.oneLine_of_mem_lines member⟩
  rw [lines_moduleIndex]
  exact List.cons_ne_nil _ _

/-- The documents that are generated from catalogs without line breaks in their texts, and the
indexes of such documents. -/
inductive Emitted : Document → Prop where
  | generated {catalog : Catalog} {results : List (Except TaskError Document)} {d : Document}
      (texts : ∀ f ∈ catalog.families, f.SingleLined) (ran : generateAll catalog = .ok results)
      (member : .ok d ∈ results) : Emitted d
  | index {documents : List Document} (each : ∀ d ∈ documents, Emitted d) :
      Emitted (moduleIndex documents)

theorem Emitted.singleLined {d : Document} (emitted : Emitted d) : d.SingleLined := by
  induction emitted with
  | @generated catalog results d texts ran member =>
      have listed : d ∈ results.filterMap Except.toOption :=
        List.mem_filterMap.mpr ⟨.ok d, member, rfl⟩
      obtain ⟨p, inside, produced⟩ := exists_task_of_mem_documents ran listed
      obtain ⟨b, describes, -, rfl⟩ := describes_of_generateType produced
      have family := texts p.2 (mem_generated_iff.mp inside)
      exact (describes.singleLined (fun g known => (texts g known).id) family).document
  | index each ih => exact singleLined_moduleIndex ih

/-! ## Texts and files -/

/-- A sink that writes a document into a directory records the number of lines of the file. -/
theorem perform_write_counts {σ : Type} {medium : Medium σ} {d : Document} (single : d.SingleLined)
    {dir : String} {state after : List ManifestEntry × σ}
    (written : Directory.perform (Directory.write medium.storage dir d) state = (.ok (), after)) :
    ∃ place opened text,
      (medium.tree state.2).openFile (joinPath dir d.fileName) = .ok (place, opened) ∧
      (medium.tree after.2).node? place = some (.file text) ∧
      after.1 = state.1 ++ [⟨d.name, d.fileName, (brokenPieces text).length⟩] := by
  rw [Directory.perform_write] at written
  rcases result : Directory.attempt medium state.2 dir d.fileName d.text with ⟨answer, tree⟩
  rw [result] at written
  cases answer with
  | error failure => cases written
  | ok _ =>
      cases written
      have nonempty : d.text.isEmpty = false := by
        rw [Bool.eq_false_iff, ne_eq, String.isEmpty_iff]
        intro none
        have last := d.getLast?_text
        rw [none] at last
        cases last
      obtain ⟨place, opened, openedAt, file⟩ := FileTree.node?_of_write nonempty result
      rw [← medium.tree_change tree state.2] at file
      refine ⟨place, opened, d.text, openedAt, file, ?_⟩
      rw [Document.brokenPieces_text single.nonempty single.lines, List.length_map]
      rfl

/-- No line of an emitted document has a line break, so that its text has one for each line, ends
with one, and falls apart behind them into the lines; and the sink that writes it into a directory
records the number of lines that the file has. -/
theorem emitted_text_lines {d : Document} (emitted : Emitted d) :
    (∀ line ∈ d.lines, '\n' ∉ line.toList) ∧
    d.text.toList.count '\n' = d.lines.length ∧
    d.text.toList.getLast? = some '\n' ∧
    brokenPieces d.text = d.lines.map (· ++ "\n") ∧
    ∀ {σ : Type} (medium : Medium σ) dir state after,
      Directory.perform (Directory.write medium.storage dir d) state = (.ok (), after) →
      ∃ place opened text,
        (medium.tree state.2).openFile (joinPath dir d.fileName) = .ok (place, opened) ∧
        (medium.tree after.2).node? place = some (.file text) ∧
        after.1 = state.1 ++ [⟨d.name, d.fileName, (brokenPieces text).length⟩] := by
  have single := emitted.singleLined
  exact ⟨single.lines, Document.count_text_of_oneLine single.nonempty single.lines, d.getLast?_text,
    Document.brokenPieces_text single.nonempty single.lines,
    fun _ _ _ _ written => perform_write_counts single written⟩

/-- The index of the documents of one family, written into an empty directory. -/
theorem emitted_text_lines_single :
    ∃ documents text after, generateAll Catalog.single = .ok (documents.map .ok) ∧
      Directory.perform (Directory.write FileTree.storage "out" (moduleIndex documents))
        ([], FileTree.emptyOut) = (.ok (), after) ∧
      after.2.node? ["out", "mod.rs"] = some (.file text) ∧
      after.1 = [⟨"mod", "mod.rs", (brokenPieces text).length⟩] := by
  obtain ⟨documents, generated⟩ := exists_documents (by decide +kernel :
    ((generateAll Catalog.single).toOption.any fun results =>
      results.all fun result => result.toOption.isSome) = true)
  have texts : ∀ f ∈ Catalog.single.families, f.SingleLined := by
    intro f member
    rw [List.mem_singleton.mp member]
    exact ⟨by decide, by decide, by decide, by decide⟩
  have emitted : ∀ d ∈ documents, Emitted d := fun d member =>
    .generated texts generated (List.mem_map_of_mem member)
  have opens : FileTree.emptyOut.openFile (joinPath "out" "mod.rs") =
      .ok (["out", "mod.rs"], FileTree.emptyOut.put ["out", "mod.rs"] (.file "")) := by
    decide +kernel
  obtain ⟨tree, filled⟩ : ∃ tree, Directory.attempt .reliable FileTree.emptyOut "out" "mod.rs"
      (moduleIndex documents).text = (.ok (), tree) := by
    have filled : (FileTree.emptyOut.write none (joinPath "out" "mod.rs")
        (moduleIndex documents).text).1 = .ok () := by
      unfold FileTree.write
      rw [opens]
      rfl
    exact ⟨_, Prod.ext filled rfl⟩
  have written := Directory.perform_write .reliable "out" (moduleIndex documents)
    ([], FileTree.emptyOut)
  have named : (moduleIndex documents).fileName = "mod.rs" := rfl
  rw [named, filled] at written
  obtain ⟨-, -, -, -, recorded⟩ := emitted_text_lines (.index emitted)
  obtain ⟨place, opened, text, openedAt, file, manifest⟩ := recorded .reliable "out" _ _ written
  rw [named] at openedAt
  cases opens.symm.trans openedAt
  exact ⟨documents, text, _, generated, written, file, manifest⟩

end CurveForge
