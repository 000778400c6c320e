import CurveForge.Proofs.Document.CatalogOrder
import CurveForge.Proofs.Document.Tidy
import CurveForge.Proofs.Formula.Conversion
import CurveForge.Proofs.Formula.Words

/-!
# Arguments of constructor calls

The coefficients of a segment and the points of a conversion are arguments of a
constructor. Each such call takes points apart by a pattern first. The pattern is
found column by column and the arguments row by row; they agree on the names, for
a name is in use exactly if some row of the matrix keeps a term with it.
-/

namespace CurveForge

open Reading Source

def HasWeight (col : Nat) (rows : List (List Fraction)) : Prop :=
  ∃ row ∈ rows, ∃ weight, row[col]? = some weight ∧ weight.isZero = false

/-- The induction is on the rows; the first weight other than zero ends the search. -/
theorem hasWeight_of_usesColumn {col : Nat} {rows : List (List Fraction)} {used : Bool}
    (result : usesColumn col rows = .ok used) : used = true ↔ HasWeight col rows := by
  unfold HasWeight
  induction rows with
  | nil =>
      cases result
      simp
  | cons row rest ih =>
      unfold usesColumn at result
      split at result
      · cases result
      · next weight entry =>
        cases zero : weight.isZero with
        | false =>
            rw [zero] at result
            cases result
            simp [entry, zero]
        | true =>
            rw [zero, if_pos rfl] at result
            simp [entry, zero, ih result]

namespace LinearSum

theorem mem_kept_iff {entries : List (Fraction × String)} {term : WeightedTerm} :
    term ∈ kept entries ↔ (term.weight, term.name) ∈ entries ∧ term.weight.isZero = false := by
  constructor
  · exact mem_kept
  · rintro ⟨entry, nonzero⟩
    exact List.mem_map.mpr ⟨_, List.mem_filter.mpr ⟨entry, by simp [nonzero]⟩, rfl⟩

/-- Among different names, a row keeps a term with the name of a column exactly if its weight in the
column is not zero. -/
theorem exists_term_iff {row : List Fraction} {names : List String} (style : NumberStyle)
    (nodup : names.Nodup) {col : Nat} {name : String} (named : names[col]? = some name) :
    (∃ term ∈ (ofPairs row names style).terms, term.name = name) ↔
      ∃ weight, row[col]? = some weight ∧ weight.isZero = false := by
  have paired (pair : Fraction × String) : pair ∈ row.zip names ↔
      ∃ i : Nat, row[i]? = some pair.1 ∧ names[i]? = some pair.2 := by
    simp only [List.mem_iff_getElem?, List.getElem?_zip_eq_some]
  rw [terms_ofPairs]
  constructor
  · rintro ⟨term, member, rfl⟩
    obtain ⟨entry, nonzero⟩ := mem_kept_iff.mp member
    obtain ⟨i, weight, same⟩ := (paired _).mp entry
    have inside : i < names.length := (List.getElem?_eq_some_iff.mp same).1
    have place : i = col := (List.getElem?_inj inside nodup).mp (same.trans named.symm)
    exact ⟨term.weight, place ▸ weight, nonzero⟩
  · rintro ⟨weight, entry, nonzero⟩
    exact ⟨⟨weight, name⟩, mem_kept_iff.mpr ⟨(paired _).mpr ⟨col, entry, named⟩, nonzero⟩, rfl⟩

end LinearSum

/-! ## Patterns -/

theorem ne_blank_of_isIdentifier {name : String} (identifier : isIdentifier name = true) :
    name ≠ "_" := by
  rintro rfl
  exact absurd identifier (by decide +kernel)

/-- The entries of a pattern for the names: each name in use stands in its place, and a blank in the
place of every other one. -/
structure TakesApart (names : List String) (used : String → Prop) (entries : List String) :
    Prop where
  length_eq : entries.length = names.length
  binds {j : Nat} {name : String} (named : names[j]? = some name) :
    entries[j]? = some name ↔ used name
  leaves {j : Nat} {name : String} (named : names[j]? = some name) :
    entries[j]? = some "_" ↔ ¬used name

/-- A pattern binds the names in use and no others. -/
theorem TakesApart.mem_iff {names entries : List String} {used : String → Prop}
    (takes : TakesApart names used entries) {name : String} (word : name ≠ "_") :
    name ∈ entries ↔ name ∈ names ∧ used name := by
  constructor
  · intro member
    obtain ⟨j, inside, entry⟩ := List.mem_iff_getElem.mp member
    have place : entries[j]? = some name := List.getElem?_eq_some_iff.mpr ⟨inside, entry⟩
    obtain ⟨other, named⟩ : ∃ other, names[j]? = some other :=
      ⟨_, List.getElem?_eq_getElem (takes.length_eq ▸ inside)⟩
    by_cases use : used other
    · cases place.symm.trans ((takes.binds named).mpr use)
      exact ⟨List.mem_of_getElem? named, use⟩
    · exact absurd (Option.some.inj (place.symm.trans ((takes.leaves named).mpr use))) word
  · rintro ⟨listed, use⟩
    obtain ⟨j, named⟩ := List.mem_iff_getElem?.mp listed
    exact List.mem_of_getElem? ((takes.binds named).mpr use)

namespace PointFormulas

def entries (pattern : List (Option String)) : List String := pattern.map fun name => name.getD "_"

variable {m : SquareMatrix} {names : List String} {style : NumberStyle}

/-- A name of the sum of some row. -/
def IsTermName (m : SquareMatrix) (names : List String) (style : NumberStyle) (name : String) :
    Prop :=
  ∃ row ∈ m.rows, ∃ term ∈ (LinearSum.ofPairs row names style).terms, term.name = name

/-- The entry in a place is the name there or a blank, as a term with the name is kept or not. -/
theorem entry_of_usedNames {pattern : List (Option String)}
    (drawn : usedNames m names = .ok pattern) (nodup : names.Nodup) (style : NumberStyle) {j : Nat}
    {name : String} (named : names[j]? = some name) :
    (IsTermName m names style name ∧ (entries pattern)[j]? = some name) ∨
    (¬IsTermName m names style name ∧ (entries pattern)[j]? = some "_") := by
  have each := Checked.mapM_eq_ok_iff.mp drawn
  obtain ⟨inside, rfl⟩ := List.getElem?_eq_some_iff.mp named
  have width : j < pattern.length := by
    rwa [← each.length_eq, List.length_zipIdx]
  have related := each.get (by simpa using inside) width
  simp only [List.get_eq_getElem, List.getElem_zipIdx, Nat.zero_add] at related
  obtain ⟨used, result, chosen⟩ := Checked.bind_eq_ok_iff.mp related
  have kept : used = true ↔ IsTermName m names style names[j] := by
    rw [hasWeight_of_usesColumn result]
    exact exists_congr fun row => and_congr_right fun _ =>
      (LinearSum.exists_term_iff style nodup named).symm
  have place : (entries pattern)[j]? = some (pattern[j].getD "_") := by
    rw [entries, List.getElem?_map, List.getElem?_eq_getElem width, Option.map_some]
  rw [place, ← Except.ok.inj chosen]
  cases used with
  | true => exact .inl ⟨kept.mp rfl, rfl⟩
  | false => exact .inr ⟨fun use => Bool.false_ne_true (kept.mpr use), rfl⟩

theorem takesApart_of_usedNames {pattern : List (Option String)}
    (drawn : usedNames m names = .ok pattern) (nodup : names.Nodup)
    (identifiers : ∀ name ∈ names, isIdentifier name = true) (style : NumberStyle) :
    TakesApart names (IsTermName m names style) (entries pattern) := by
  have word {j : Nat} {name : String} (named : names[j]? = some name) : name ≠ "_" :=
    ne_blank_of_isIdentifier (identifiers name (List.mem_of_getElem? named))
  refine ⟨?_, fun {j name} named => ?_, fun {j name} named => ?_⟩
  · rw [entries, List.length_map, ← (Checked.mapM_eq_ok_iff.mp drawn).length_eq, List.length_zipIdx]
  · rcases entry_of_usedNames drawn nodup style named with ⟨use, place⟩ | ⟨unused, place⟩
    · exact iff_of_true place use
    · exact iff_of_false (fun same => word named (Option.some.inj (same.symm.trans place))) unused
  · rcases entry_of_usedNames drawn nodup style named with ⟨use, place⟩ | ⟨unused, place⟩
    · exact iff_of_false (fun same => word named (Option.some.inj (place.symm.trans same)))
        (not_not.mpr use)
    · exact iff_of_true place unused

/-- The written rows mention the names of the sums. -/
theorem mentions_rows_iff {formulas : List Formula} (written : m.formulas names style = .ok formulas)
    (identifiers : ∀ name ∈ names, isIdentifier name = true) {name : String}
    (identifier : isIdentifier name = true) :
    (∃ row ∈ formulas.map Formula.text, Mentions row name) ↔ IsTermName m names style name := by
  have each := Checked.mapM_eq_ok_iff.mp written
  have related {row : List Fraction} {formula : Formula}
      (result : (LinearSum.ofPairs row names style).formula = .ok formula) :=
    LinearSum.mentions_formula_iff result
      (fun term member => identifiers _ (SquareMatrix.mem_of_row member).2.1) identifier
  constructor
  · rintro ⟨text, member, mentions⟩
    obtain ⟨formula, inside, rfl⟩ := List.mem_map.mp member
    obtain ⟨row, listed, result⟩ := exists_of_forall₂_of_mem each inside
    exact ⟨row, listed, (related result).mp mentions⟩
  · rintro ⟨row, listed, term⟩
    obtain ⟨formula, inside, result⟩ := exists_of_forall₂_of_mem each.flip listed
    exact ⟨_, List.mem_map_of_mem inside, (related result).mpr term⟩

end PointFormulas

/-- The entries of a pattern are the names that the arguments behind it mention, each in its place:
what is mentioned is bound, and what is bound is mentioned. -/
structure BindsArguments (names entries arguments : List String) : Prop where
  takesApart : TakesApart names (fun name => ∃ row ∈ arguments, Mentions row name) entries
  bound {row name : String} (argument : row ∈ arguments) (identifier : isIdentifier name = true)
    (mentions : Mentions row name) : name ∈ entries
  used {name : String} (entry : name ∈ entries) (word : name ≠ "_") :
    ∃ row ∈ arguments, Mentions row name

namespace PointFormulas

variable {m : SquareMatrix} {names : List String} {p : PointFormulas}

theorem bindsArguments_of_ofMatrix (drawn : ofMatrix m names = .ok p) (nodup : names.Nodup)
    (identifiers : ∀ name ∈ names, isIdentifier name = true) :
    BindsArguments names (entries p.pattern) (p.formulas.map Formula.text) := by
  obtain ⟨used, written⟩ := parts_of_ofMatrix drawn
  have takes := takesApart_of_usedNames used nodup identifiers .float
  have mentioned {name : String} (identifier : isIdentifier name = true) :=
    mentions_rows_iff written identifiers identifier
  have listed {j : Nat} {name : String} (named : names[j]? = some name) :
      isIdentifier name = true := identifiers name (List.mem_of_getElem? named)
  refine ⟨⟨takes.length_eq, fun named => ?_, fun named => ?_⟩, ?_, ?_⟩
  · exact (takes.binds named).trans (mentioned (listed named)).symm
  · exact (takes.leaves named).trans (not_congr (mentioned (listed named)).symm)
  · intro row name argument identifier mentions
    have use := (mentioned identifier).mp ⟨row, argument, mentions⟩
    have member : name ∈ names := by
      obtain ⟨source, -, term, kept, rfl⟩ := use
      exact (SquareMatrix.mem_of_row kept).2.1
    exact (takes.mem_iff (ne_blank_of_isIdentifier identifier)).mpr ⟨member, use⟩
  · intro name entry word
    obtain ⟨member, use⟩ := (takes.mem_iff word).mp entry
    exact (mentioned (identifiers name member)).mpr use

end PointFormulas

/-! ## Calls in a document -/

theorem Phrase.commaEnded_eq (items : List String) :
    commaEnded items = items.dropLast.map (· ++ ",") ++ items.getLast?.toList := by
  fun_induction commaEnded items with
  | case1 => rfl
  | case2 last => rfl
  | case3 item rest other ih =>
      cases rest with
      | nil => exact absurd rfl other
      | cons next rest => simp [ih]

/-- The lines of a constructor call: a pattern takes the points apart, and between the opening and
the closing one argument stands to a line, each but the last with a comma behind it. -/
def callLines (entries : List String) (source opening closing : String)
    (arguments : List String) : List String :=
  ("        let [" ++ ", ".intercalate entries ++ "] = " ++ source ++ ".points();") ::
    ("        " ++ opening) ::
    (arguments.dropLast.map fun row => "            " ++ row ++ ",") ++
    (arguments.getLast?.toList.map fun row => "            " ++ row) ++
    ["        " ++ closing]

def curveLines (polynomial : String) (call : List String) : List String :=
  ("    pub fn curve(&self) -> " ++ polynomial ++ " \x7b") ::
    "        if let Some(curve) = self.curve.get() \x7b" ::
    "            return curve;" ::
    "        \x7d" ::
    call ++
    ["        self.curve.set(Some(curve));", "        curve", "    \x7d"]

def conversionLines (source target : String) (call : List String) : List String :=
  "" ::
    conversionLine source target ::
    ("    fn from(s: " ++ source ++ ") -> Self \x7b") ::
    call ++
    ["    \x7d", "\x7d"]

namespace Blueprint

theorem linesAt_callWith (opening closing : String) (arguments : List String) (level : Nat) :
    (callWith opening closing arguments).linesAt level =
      (Writer.indentation level ++ opening) ::
        (Phrase.commaEnded arguments).map (Writer.indentation (level + 1) ++ ·) ++
        [Writer.indentation level ++ closing] := by
  simp [callWith, scope, linesAt, Guard.opening, Guard.inner, Guard.indents, Guard.closing]

/-- A call in a body at the second level. -/
theorem linesAt_call (p : PointFormulas) (source opening closing : String)
    (arguments : List String) :
    (Source.line ("let " ++ p.patternText ++ " = " ++ source ++ ".points();")).linesAt 2 ++
      (callWith opening closing arguments).linesAt 2 =
      callLines (PointFormulas.entries p.pattern) source opening closing arguments := by
  have front : "        let [" = Writer.indentation 2 ++ ("let " ++ "[") := rfl
  have back : "] = " = "]" ++ " = " := rfl
  have pattern : Writer.indentation 2 ++ ("let " ++ p.patternText ++ " = " ++ source ++
      ".points();") = "        let [" ++ ", ".intercalate (PointFormulas.entries p.pattern) ++
        "] = " ++ source ++ ".points();" := by
    rw [front, back, PointFormulas.patternText, PointFormulas.entries]
    simp only [String.append_assoc]
  have rows : (Phrase.commaEnded arguments).map (Writer.indentation 3 ++ ·) =
      (arguments.dropLast.map fun row => "            " ++ row ++ ",") ++
        arguments.getLast?.toList.map fun row => "            " ++ row := by
    have blanks : Writer.indentation 3 = "            " := rfl
    simp only [Phrase.commaEnded_eq, List.map_append, List.map_map, Function.comp_def,
      String.append_assoc, blanks]
  rw [linesAt_callWith, rows, linesAt, pattern]
  rfl

variable {b : Blueprint}

def curveCall (b : Blueprint) : List String :=
  callLines (PointFormulas.entries b.curve.pattern) "self"
    ("let curve = " ++ b.dimension.polynomial ++ "::" ++ b.degreeWord ++ "(") ");"
    (b.curve.formulas.map Formula.text)

def conversionCall (c : Conversion) : List String :=
  callLines (PointFormulas.entries c.formulas.pattern) "s" "Self::new(" ")"
    (c.formulas.formulas.map Formula.text)

theorem infix_curveFunction (b : Blueprint) :
    curveLines b.dimension.polynomial b.curveCall <:+: b.curveFunction.linesAt 1 := by
  have header : "    pub fn curve(&self) -> " ++ b.dimension.polynomial ++ " \x7b" =
      Writer.indentation 1 ++ ("pub fn curve(&self) -> " ++ b.dimension.polynomial ++ " \x7b") := by
    have front : "    pub fn curve(&self) -> " =
      Writer.indentation 1 ++ "pub fn curve(&self) -> " := rfl
    rw [front]
    simp only [String.append_assoc]
  have source : "let " ++ b.curve.patternText ++ " = self.points();" =
      "let " ++ b.curve.patternText ++ " = " ++ "self" ++ ".points();" := by
    have back : " = self.points();" = " = " ++ "self" ++ ".points();" := rfl
    rw [back]
    simp only [String.append_assoc]
  have function : curveLines b.dimension.polynomial b.curveCall =
      (block ("pub fn curve(&self) -> " ++ b.dimension.polynomial) (concat [
        block "if let Some(curve) = self.curve.get()" (.line "return curve;"),
        .line ("let " ++ b.curve.patternText ++ " = self.points();"),
        callWith ("let curve = " ++ b.dimension.polynomial ++ "::" ++ b.degreeWord ++ "(") ");"
          (b.curve.formulas.map Formula.text),
        .line "self.curve.set(Some(curve));",
        .line "curve"])).linesAt 1 := by
    rw [curveLines, curveCall, ← linesAt_call, linesAt_block, linesAt_concat, header, source]
    simp only [List.flatMap_cons, List.flatMap_nil, List.append_assoc]
    rfl
  rw [function]
  apply infix_concat
  simp

theorem lines_basisConversion (b : Blueprint) (c : Conversion) :
    (b.basisConversion c).lines = conversionLines b.name c.target (conversionCall c) := by
  have parameter : "    fn from(s: " ++ b.name ++ ") -> Self \x7b" =
      Writer.indentation 1 ++ ("fn from(" ++ "s" ++ ": " ++ b.name ++ ") -> Self" ++ " \x7b") := by
    have front : "    fn from(s: " = Writer.indentation 1 ++ ("fn from(" ++ ("s" ++ ": ")) := rfl
    have back : ") -> Self \x7b" = ") -> Self" ++ " \x7b" := rfl
    rw [front, back]
    simp only [String.append_assoc]
  have source : "let " ++ c.formulas.patternText ++ " = s.points();" =
      "let " ++ c.formulas.patternText ++ " = " ++ "s" ++ ".points();" := by
    have back : " = s.points();" = " = " ++ "s" ++ ".points();" := rfl
    rw [back]
    simp only [String.append_assoc]
  have body : (concat [
      .line ("let " ++ c.formulas.patternText ++ " = s.points();"),
      callWith "Self::new(" ")" (c.formulas.formulas.map Formula.text)]).linesAt 2 =
      conversionCall c := by
    rw [conversionCall, ← linesAt_call, linesAt_concat, source]
    simp only [List.flatMap_cons, List.flatMap_nil, List.append_nil]
  have closing : Writer.indentation 1 ++ "\x7d" = "    \x7d" := rfl
  rw [lines_eq_linesAt, basisConversion, conversionInto, implementation, linesAt_concat,
    conversionLines, ← header_conversionInto, parameter, ← body]
  simp only [List.flatMap_cons, List.flatMap_nil, List.append_nil, linesAt_block, linesAt,
    Writer.indentation_zero, String.empty_append, Nat.zero_add, closing, List.nil_append,
    List.cons_append, List.append_assoc]

/-- The function of the coefficients is part of the document of a type. -/
theorem infix_curveLines (b : Blueprint) :
    curveLines b.dimension.polynomial b.curveCall <:+: b.document.lines := by
  have lines : b.document.lines = b.source.linesAt 0 := lines_eq_linesAt b.source
  rw [lines]
  have inherent : b.inherentImplementation.linesAt 0 <:+: b.source.linesAt 0 := by
    apply infix_concat
    simp
  refine List.IsInfix.trans ?_ inherent
  unfold inherentImplementation
  refine List.IsInfix.trans ?_ (infix_concat List.mem_cons_self 0)
  refine List.IsInfix.trans ?_ (infix_enclosed .block _ _ 0)
  refine b.infix_curveFunction.trans ?_
  apply infix_concat
  simp

end Blueprint

/-! ## Generated documents -/

open Blueprint

/-- A constructor call with the rows as its arguments, behind a pattern that binds what they
mention. -/
def CallsWith (names rows : List String) (source opening closing : String) (call : List String) :
    Prop :=
  ∃ entries, BindsArguments names entries rows ∧
    call = callLines entries source opening closing rows

/-- The document has the function of the coefficients, whose arguments are the rows of the family,
and ends with its conversions, whose arguments are the rows of the conversions. -/
structure CallsRows (catalog : Catalog) (f : Family) (number : Nat) (document : Document) :
    Prop where
  curve : ∃ d word rows call, Dimension.ofNumber number = .ok d ∧
    degreeName .long f.degree = .ok word ∧ polynomialRows f .float = .ok rows ∧
    CallsWith f.pointNames rows "self"
      ("let curve = " ++ d.polynomial ++ "::" ++ Text.lowercase word ++ "(") ");" call ∧
    curveLines d.polynomial call <:+: document.lines
  conversions : ∃ before blocks, document.lines = before ++ blocks.flatten ∧
    List.Forall₂ (fun target block => ∃ name targetName rows call,
      f.typeName number = .ok name ∧ target.typeName number = .ok targetName ∧
      conversionRows f target .float = pure rows ∧
      CallsWith f.pointNames rows "s" "Self::new(" ")" call ∧
      block = conversionLines name targetName call) (conversionTargets catalog f) blocks

variable {catalog : Catalog} {f : Family} {number : Nat} {document : Document}

theorem callsRows_of_generateType (identifiers : ∀ name ∈ f.pointNames, isIdentifier name = true)
    (generated : (generateType catalog f number).run = .ok (.ok document)) :
    CallsRows catalog f number document := by
  obtain ⟨b, describes, fits, rfl⟩ := describes_of_generateType generated
  have binds {m : SquareMatrix} {p : PointFormulas}
      (drawn : PointFormulas.ofMatrix m f.pointNames = .ok p) :=
    PointFormulas.bindsArguments_of_ofMatrix drawn fits.names_nodup identifiers
  constructor
  · obtain ⟨word, named, lowered⟩ := describes.degreeWord
    refine ⟨b.dimension, word, _, b.curveCall, describes.dimension, named,
      polynomialRows_eq_ok_iff.mpr ⟨_, (PointFormulas.parts_of_ofMatrix describes.curve).2, rfl⟩,
      ⟨_, binds describes.curve, ?_⟩, b.infix_curveLines⟩
    rw [← lowered]
    rfl
  · refine ⟨b.sections.lines, b.conversions.map fun c => (b.basisConversion c).lines, ?_, ?_⟩
    · rw [b.lines_document, List.flatMap_def]
    · rw [List.forall₂_map_right_iff]
      apply describes.converted.imp
      intro target c converted
      obtain ⟨named, matrix, computed, drawn⟩ := parts_of_conversionTo converted
      have number := Dimension.number_of_ofNumber describes.dimension
      exact ⟨b.name, c.target, _, conversionCall c, describes.name, number ▸ named,
        conversionRows_eq_pure_iff.mpr
          ⟨matrix, _, computed, (PointFormulas.parts_of_ofMatrix drawn).2, rfl⟩,
        ⟨_, binds drawn, rfl⟩, b.lines_basisConversion c⟩

/-- The pattern of a matrix has an entry for each name, which is the name if some row of the matrix
keeps a term with it and a blank otherwise. In a generated document, the arguments of the
constructor calls are the rows of the family and of its conversions, and the pattern in front of
each call binds exactly the names that its arguments mention. -/
theorem patterns_match_arguments :
    (∀ (m : SquareMatrix) (names : List String) (style : NumberStyle), names.length = m.size →
      names.Nodup → (∀ name ∈ names, isIdentifier name = true) →
      ∃ pattern, PointFormulas.usedNames m names = .ok pattern ∧
        TakesApart names (PointFormulas.IsTermName m names style)
          (PointFormulas.entries pattern)) ∧
    ∀ (catalog : Catalog) (f : Family) (number : Nat) (document : Document),
      (∀ name ∈ f.pointNames, isIdentifier name = true) →
      (generateType catalog f number).run = .ok (.ok document) →
      CallsRows catalog f number document := by
  refine ⟨?_, fun catalog f number document identifiers generated =>
    callsRows_of_generateType identifiers generated⟩
  intro m names style same nodup identifiers
  obtain ⟨pattern, used⟩ := PointFormulas.usedNames_ok same
  exact ⟨pattern, used, PointFormulas.takesApart_of_usedNames used nodup identifiers style⟩

/-- A matrix whose second column and second row are zero. -/
def sparse : SquareMatrix :=
  ⟨3, Grid.ofFn fun r c => if r = 1 ∨ c = 1 then 0 else 1⟩

/-- The second of three names is left out of the pattern of the matrix, and the document of the
Hermite curve in the plane calls the rows of four conversions. -/
theorem patterns_match_arguments_sparse :
    PointFormulas.usedNames sparse ["a", "b", "c"] = .ok [some "a", none, some "c"] ∧
    TakesApart ["a", "b", "c"] (PointFormulas.IsTermName sparse ["a", "b", "c"] .float)
      ["a", "_", "c"] ∧
    ∃ document, (generateType Catalog.standard Catalog.hermite 2).run = .ok (.ok document) ∧
      CallsRows Catalog.standard Catalog.hermite 2 document := by
  have drawn : PointFormulas.usedNames sparse ["a", "b", "c"] =
      .ok [some "a", none, some "c"] := by decide +kernel
  obtain ⟨pattern, used, takes⟩ := patterns_match_arguments.1 sparse ["a", "b", "c"] .float rfl
    (by decide) (by decide +kernel)
  cases used.symm.trans drawn
  obtain ⟨document, generated⟩ := Generation.exists_value_of_isSome
    (x := generateType Catalog.standard Catalog.hermite 2) (by decide +kernel)
  exact ⟨drawn, takes, document, generated, patterns_match_arguments.2 Catalog.standard
    Catalog.hermite 2 document (by decide +kernel) generated⟩

end CurveForge
