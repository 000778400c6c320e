import Mathlib
import CurveForge.Document.Splitting
import CurveForge.Proofs.Reading.Program
import CurveForge.Proofs.Source.Lines

/-!
# Reading the body of a split

At any level of indentation, the lines of a split are read back as the program
that binds the control points, defines every point of the triangle by a blend, and
answers the names on both edges.
-/

namespace CurveForge

open Reading

namespace PointBinding

def blend (first second : Expression) : Expression :=
  .sum first (.product (.difference second first) (.variable "t"))

def blendTokens (first second : List Char) : List Token :=
  [.word first, .symbol '+', .symbol '(', .word second, .symbol '-', .word first, .symbol ')',
    .symbol '*', .word ['t']]

theorem tokens_blendText {first second : String} (firstWord : IsWord first)
    (secondWord : IsWord second) :
    tokens (blendText first second) = blendTokens first.toList second.toList := by
  have pieces : blendText first second =
      first ++ (" + (" ++ (second ++ (" - " ++ (first ++ ") * t")))) := by
    simp [blendText, Phrase.parens, String.append_assoc, ← String.toList_inj]
  have plus : tokens " + (" = [.symbol '+', .symbol '('] := tokens_plain (by decide)
  have minus : tokens " - " = [.symbol '-'] := tokens_plain (by decide)
  have closing : tokens ") * t" = [.symbol ')', .symbol '*', .word ['t']] :=
    tokens_plain (by decide)
  rw [pieces, tokens_word_append firstWord (startsApart_append _ (by decide)),
    tokens_append (.inl (by decide)), plus,
    tokens_word_append secondWord (startsApart_append _ (by decide)),
    tokens_append (.inl (by decide)), minus,
    tokens_word_append firstWord (by decide), closing]
  rfl

theorem expressionOf?_blendTokens {first second : List Char} {a b : Expression}
    (firstAtom : atom? first = some a) (secondAtom : atom? second = some b) :
    expressionOf? (blendTokens first second) = some (blend a b) := by
  have parameter : atom? ['t'] = some (.variable "t") := by decide
  have difference (rest : List Token) (fuel : Nat) :
      sum? (fuel + 5) (.word second :: .symbol '-' :: .word first :: .symbol ')' :: rest) =
        some (.difference b a, .symbol ')' :: rest) := by
    have left : product? (fuel + 4) (.word second :: .symbol '-' :: .word first ::
        .symbol ')' :: rest) = some (b, .symbol '-' :: .word first :: .symbol ')' :: rest) :=
      product?_factor (factor?_word secondAtom) (by simp [EndsProduct])
    have right : product? (fuel + 3) (.word first :: .symbol ')' :: rest) =
        some (a, .symbol ')' :: rest) :=
      product?_factor (factor?_word firstAtom) (endsSum_closing rest).endsProduct
    calc sum? (fuel + 5) (.word second :: .symbol '-' :: .word first :: .symbol ')' :: rest)
        = sumTail? (fuel + 4) b (.symbol '-' :: .word first :: .symbol ')' :: rest) :=
          sum?_rule left
      _ = sumTail? (fuel + 3) (.difference b a) (.symbol ')' :: rest) := sumTail?_minus right
      _ = some (.difference b a, .symbol ')' :: rest) := sumTail?_ends (endsSum_closing rest)
  have whole : sum? 80 (blendTokens first second) = some (blend a b, []) := by
    have left : product? 79 (blendTokens first second) =
        some (a, (blendTokens first second).tail) :=
      product?_factor (factor?_word firstAtom) (by simp [blendTokens, EndsProduct])
    have right : product? 78 (blendTokens first second).tail.tail =
        some (.product (.difference b a) (.variable "t"), []) :=
      product?_times (factor?_parens (difference _ 71)) (factor?_word parameter) trivial
    calc sum? 80 (blendTokens first second)
        = sumTail? 79 a (blendTokens first second).tail := sum?_rule left
      _ = sumTail? 78 (blend a b) [] := sumTail?_plus right
      _ = some (blend a b, []) := sumTail?_ends trivial
  have count : 8 * (blendTokens first second).length + 8 = 80 := rfl
  rw [expressionOf?, count, whole]

theorem not_mem_blendTokens {c : Char} (other : c ∉ ['+', '(', '-', ')', '*'])
    (first second : List Char) : .symbol c ∉ blendTokens first second := by
  simp only [List.mem_cons, List.not_mem_nil, or_false, not_or] at other
  simp [blendTokens, other]

section Names

variable {names level points supply : List String} {b : PointBinding} {holds : String → Prop}

theorem mem_row {b : PointBinding} (member : b ∈ row names level) :
    b.name ∈ names ∧ b.first ∈ level ∧ b.second ∈ level := by
  obtain ⟨⟨name, first, second⟩, zipped, rfl⟩ := List.mem_map.mp member
  obtain ⟨named, pair⟩ := List.of_mem_zip zipped
  obtain ⟨front, back⟩ := List.of_mem_zip pair
  exact ⟨named, front, List.mem_of_mem_tail back⟩

/-- The induction is on the rows; the names of one row are the points of the next one. -/
theorem holds_rowsFrom {count : Nat} (last : holds "p") (filler : holds "q")
    (supplied : ∀ name ∈ supply, holds name) (points : ∀ point ∈ level, holds point) :
    ∀ b ∈ (rowsFrom count supply level).flatten, holds b.name ∧ holds b.first ∧ holds b.second := by
  have bound {names level : List String} (named : ∀ name ∈ names, holds name)
      (points : ∀ point ∈ level, holds point) (b : PointBinding) (member : b ∈ row names level) :
      holds b.name ∧ holds b.first ∧ holds b.second := by
    obtain ⟨name, first, second⟩ := mem_row member
    exact ⟨named _ name, points _ first, points _ second⟩
  fun_induction rowsFrom count supply level with
  | case1 => exact nofun
  | case2 supply level =>
      rw [List.flatten_singleton]
      exact bound (List.forall_mem_singleton.mpr last) points
  | case3 count supply level names ih =>
      have named : ∀ name ∈ names, holds name := by
        intro name member
        rcases List.mem_append.mp member with taken | repeated
        · exact supplied name (List.mem_of_mem_take taken)
        · exact (List.eq_of_mem_replicate repeated) ▸ filler
      have later := ih (fun name member => supplied name (List.mem_of_mem_drop member)) named
      rw [List.flatten_cons]
      exact List.forall_mem_append.mpr ⟨bound named points, later⟩

/-- What holds of the letters and of the control points holds of every name in a binding. -/
theorem holds_rows (supplied : ∀ name ∈ "p" :: letters, holds name)
    (named : ∀ point ∈ points, holds point) :
    ∀ b ∈ (rows points).flatten, holds b.name ∧ holds b.first ∧ holds b.second :=
  holds_rowsFrom (supplied "p" List.mem_cons_self) (supplied "q" (by decide))
    (fun name member => supplied name (List.mem_cons_of_mem _ member)) named

end Names

/-! ## Statements -/

structure Readable (b : PointBinding) : Prop where
  name : isIdentifier b.name = true
  first : isIdentifier b.first = true
  second : isIdentifier b.second = true

def definition (d : Dimension) (b : PointBinding) : Definition :=
  match d.vector? with
  | none => .scalar (blend (.variable b.first) (.variable b.second))
  | some _ =>
      .vector (d.components.map fun c => blend (.component b.first c) (.component b.second c))

def typeTokens : Dimension → List Token
  | .one => [.word "f32".toList]
  | .two => [.word "Vector2".toList, .symbol '<', .word "f32".toList, .symbol '>']
  | .three => [.word "Vector3".toList, .symbol '<', .word "f32".toList, .symbol '>']

def componentTokens (b : PointBinding) (c : String) : List Token :=
  blendTokens (b.first ++ "." ++ c).toList (b.second ++ "." ++ c).toList

def valueTokens (d : Dimension) (b : PointBinding) : List Token :=
  match d.vector? with
  | none => blendTokens b.first.toList b.second.toList
  | some vector =>
      .word vector.toList :: .symbol ':' :: .symbol ':' :: .word "new".toList :: .symbol '(' ::
        ((d.components.map b.componentTokens).flatMap (fun item => item ++ [.symbol ',']) ++
          [.symbol ')'])

def statementTokens (d : Dimension) (b : PointBinding) : List Token :=
  .word "let".toList :: .word b.name.toList :: .symbol ':' ::
    (typeTokens d ++ .symbol '=' :: b.valueTokens d)

variable {b : PointBinding}

theorem expressionOf?_componentTokens (readable : b.Readable) {c : String}
    (identifier : isIdentifier c = true) :
    expressionOf? (b.componentTokens c) =
      some (blend (.component b.first c) (.component b.second c)) := by
  have path (name : String) : (name ++ "." ++ c).toList = name.toList ++ '.' :: c.toList := by simp
  rw [componentTokens, path, path]
  exact expressionOf?_blendTokens (atom?_component readable.first identifier)
    (atom?_component readable.second identifier)

theorem not_mem_componentTokens {symbol : Char} (other : symbol ∉ ['+', '(', '-', ')', '*'])
    (b : PointBinding) (c : String) : .symbol symbol ∉ b.componentTokens c :=
  not_mem_blendTokens other _ _

theorem isIdentifier_of_mem_components {d : Dimension} {c : String} (member : c ∈ d.components) :
    isIdentifier c = true := by
  have all : ∀ c ∈ ["x", "y", "z"], isIdentifier c = true := by decide
  refine all c ?_
  cases d <;> simp [Dimension.components] at member ⊢ <;> tauto

theorem definition?_valueTokens (d : Dimension) (readable : b.Readable) :
    definition? (b.valueTokens d) = some (b.definition d) := by
  unfold valueTokens definition
  cases vector : d.vector? with
  | none =>
      have read := expressionOf?_blendTokens (atom?_identifier readable.first)
        (atom?_identifier readable.second)
      exact congrArg (Option.map Definition.scalar) read
  | some type =>
      have known : type.toList ∈ vectorTypes := by
        cases d <;> cases vector <;> simp [vectorTypes]
      have arguments : arguments? (((d.components.map b.componentTokens).flatMap fun item =>
          item ++ [.symbol ',']) ++ [.symbol ')']) =
          some (d.components.map fun c => blend (.component b.first c) (.component b.second c)) :=
        arguments?_tokens (fun c _ => not_mem_componentTokens (by decide) b c) fun c member =>
          expressionOf?_componentTokens readable (isIdentifier_of_mem_components member)
      simp only [definition?, known, true_and, if_true, arguments, Option.map_some]

theorem not_mem_valueTokens {symbol : Char} (other : symbol ∉ ['+', '(', '-', ')', '*', ':', ','])
    (d : Dimension) (b : PointBinding) : .symbol symbol ∉ b.valueTokens d := by
  have inner : symbol ∉ ['+', '(', '-', ')', '*'] := fun member =>
    other (List.mem_append_left [':', ','] member)
  simp only [List.mem_cons, List.not_mem_nil, or_false, not_or] at other
  unfold valueTokens
  cases d.vector? with
  | none => exact not_mem_blendTokens inner _ _
  | some type => simp [other, not_mem_componentTokens inner]

theorem not_mem_statementTokens (d : Dimension) (b : PointBinding) :
    .symbol ';' ∉ b.statementTokens d := by
  have value := not_mem_valueTokens (by decide : ';' ∉ ['+', '(', '-', ')', '*', ':', ',']) d b
  cases d <;> simpa [statementTokens, typeTokens] using value

theorem statement?_tokens (d : Dimension) (readable : b.Readable) :
    statement? (b.statementTokens d) = some (.define b.name (b.definition d)) := by
  have type : .symbol '=' ∉ typeTokens d := by cases d <;> simp [typeTokens]
  have name : name? [.word b.name.toList] = some b.name := by
    rw [name?, String.ofList_toList, if_pos readable.name]
  rw [statementTokens, statement?, List.splitOn_append_cons_self_of_not_mem type,
    List.splitOn_eq_singleton (not_mem_valueTokens (by decide) d b)]
  simp only [if_true, name, definition?_valueTokens d readable, Option.bind_some, Option.map_some]

end PointBinding

/-! ## From lines to tokens -/

namespace Reading

theorem tokens_indentation_append (level : Nat) (text : String) :
    tokens (Writer.indentation level ++ text) = tokens text := by
  rw [tokens, String.toList_append, Writer.indentation, String.toList_ofList]
  induction 4 * level with
  | zero => rfl
  | succ n ih => rw [List.replicate_succ, List.cons_append, scan_blank, ih]

theorem tokens_commas {names : List String}
    (identifiers : ∀ name ∈ names, isIdentifier name = true) :
    tokens (Phrase.commas names) = nameTokens names := by
  have comma : tokens ", " = [.symbol ','] := tokens_plain (by decide)
  unfold Phrase.commas nameTokens
  induction names with
  | nil => rfl
  | cons name rest ih =>
      obtain ⟨first, others⟩ := List.forall_mem_cons.mp identifiers
      have word := IsWord.of_identifier first
      cases rest with
      | nil => exact tokens_word word
      | cons second more =>
          have starts : startsApart (", " ++ String.intercalate ", " (second :: more)) = true :=
            startsApart_append _ (by decide)
          rw [String.intercalate_cons_cons, String.append_assoc, tokens_word_append word starts,
            tokens_append (.inl (by decide)), comma, ih others]
          refine Eq.trans ?_ List.intercalate_cons_cons.symm
          rfl

/-- A list of names between two pieces of text. -/
theorem tokens_commas_append {names : List String}
    (identifiers : ∀ name ∈ names, isIdentifier name = true) {rest : String}
    (starts : startsApart rest = true) :
    tokens (Phrase.commas names ++ rest) = nameTokens names ++ tokens rest := by
  rw [tokens_append (.inr starts), tokens_commas identifiers]

end Reading

namespace PointBinding

variable {b : PointBinding}

/-- The tokens up to the equality sign. -/
theorem tokens_opening (d : Dimension) (readable : b.Readable) (rest : String) :
    tokens ("let " ++ b.name ++ ": " ++ d.point ++ " = " ++ rest) =
      .word "let".toList :: .word b.name.toList :: .symbol ':' ::
        (typeTokens d ++ .symbol '=' :: tokens rest) := by
  have keyword : tokens "let " = [.word "let".toList] := tokens_plain (by decide)
  have colon : tokens ": " = [.symbol ':'] := tokens_plain (by decide)
  have equals : tokens " = " = [.symbol '='] := tokens_plain (by decide)
  have type : tokens d.point = typeTokens d := by
    cases d <;> exact tokens_plain (by decide)
  have word := IsWord.of_identifier readable.name
  simp only [String.append_assoc]
  rw [tokens_append (.inl (by decide)), keyword,
    tokens_word_append word (startsApart_append _ (by decide)),
    tokens_append (.inl (by decide)), colon,
    tokens_append (.inr (startsApart_append _ (by decide))), type,
    tokens_append (.inl (by decide)), equals]
  simp

theorem tokens_component (readable : b.Readable) {c : String} (identifier : isIdentifier c = true) :
    tokens (blendText (b.first ++ "." ++ c) (b.second ++ "." ++ c) ++ ",") =
      b.componentTokens c ++ [.symbol ','] := by
  have comma : tokens "," = [.symbol ','] := tokens_plain (by decide)
  have field := IsWord.of_identifier identifier
  rw [tokens_append (.inr (by decide)), comma,
    tokens_blendText ((IsWord.of_identifier readable.first).component field)
      ((IsWord.of_identifier readable.second).component field)]
  rfl

/-- The lines of a statement have its tokens, and a semicolon behind them. -/
theorem tokens_statement (d : Dimension) (level : Nat) (readable : b.Readable) :
    ((statement d b).linesAt level).flatMap tokens = b.statementTokens d ++ [.symbol ';'] := by
  have semicolon : tokens ";" = [.symbol ';'] := tokens_plain (by decide)
  unfold statement statementTokens valueTokens
  cases vector : d.vector? with
  | none =>
      have blend : tokens (blendText b.first b.second ++ ";") =
          blendTokens b.first.toList b.second.toList ++ [.symbol ';'] := by
        rw [tokens_append (.inr (by decide)), semicolon,
          tokens_blendText (.of_identifier readable.first) (.of_identifier readable.second)]
      simp only [Source.linesAt, List.flatMap_singleton, tokens_indentation_append]
      rw [String.append_assoc, tokens_opening d readable, blend]
      simp
  | some type =>
      have call : tokens (type ++ "::new(") =
          [.word type.toList, .symbol ':', .symbol ':', .word "new".toList, .symbol '('] := by
        cases d <;> cases vector <;> exact tokens_plain (by decide)
      have closing : tokens ");" = [.symbol ')', .symbol ';'] := tokens_plain (by decide)
      have components : (d.components.map fun c =>
          blendText (b.first ++ "." ++ c) (b.second ++ "." ++ c) ++ ",").flatMap tokens =
          (d.components.map b.componentTokens).flatMap fun item => item ++ [.symbol ','] := by
        rw [List.flatMap_map, List.flatMap_map]
        exact List.flatMap_congr fun c member =>
          tokens_component readable (isIdentifier_of_mem_components member)
      have indented (level : Nat) (texts : List String) :
          (texts.map (Writer.indentation level ++ ·)).flatMap tokens = texts.flatMap tokens := by
        rw [List.flatMap_map]
        exact List.flatMap_congr fun text _ => tokens_indentation_append level text
      simp only [Source.linesAt_concat, List.flatMap_cons, List.flatMap_nil, Source.scope,
        Source.linesAt, Guard.opening, Guard.closing, Source.linesAt_ofLines, List.flatMap_append,
        indented, components, tokens_indentation_append, closing, List.append_nil]
      have opening (prior : String) : prior ++ type ++ "::new(" = prior ++ (type ++ "::new(") :=
        String.append_assoc
      rw [opening, tokens_opening d readable, call]
      simp

end PointBinding

/-! ## The whole body -/

theorem Casteljau.mem_of_mem_edges {α : Type} {rows : List (List α)} {entry : α}
    (member : entry ∈ (edges rows).1 ∨ entry ∈ (edges rows).2) : ∃ row ∈ rows, entry ∈ row := by
  simp only [edges, List.mem_reverse, List.mem_filterMap] at member
  rcases member with ⟨row, inside, first⟩ | ⟨row, inside, last⟩
  · exact ⟨row, inside, List.mem_of_mem_head? first⟩
  · exact ⟨row, inside, List.mem_of_getLast? last⟩

theorem Casteljau.edges_cons_ne_nil {α : Type} {row : List α} (nonempty : row ≠ [])
    (rest : List (List α)) : (edges (row :: rest)).1 ≠ [] ∧ (edges (row :: rest)).2 ≠ [] := by
  have head := List.head?_eq_some_head nonempty
  have last := List.getLast?_eq_some_getLast nonempty
  simp [edges, head, last]

namespace Blueprint

def splitHalves (points : List String) : List String × List String :=
  Casteljau.edges (points :: (PointBinding.rows points).map fun row => row.map PointBinding.name)

def splitProgram (d : Dimension) (points : List String) : Program where
  statements := .points points ::
    (PointBinding.rows points).flatten.map fun b => .define b.name (b.definition d)
  first := (splitHalves points).1
  second := (splitHalves points).2

variable {points : List String}

def takeTokens (points : List String) : List Token :=
  .word "let".toList :: .symbol '[' :: (nameTokens points ++ .symbol ']' ::
    [.symbol '=', .word "self.points".toList, .symbol '(', .symbol ')'])

theorem tokens_takePoints (identifiers : ∀ name ∈ points, isIdentifier name = true) :
    tokens ("let " ++ Phrase.brackets (Phrase.commas points) ++ " = self.points();") =
      takeTokens points ++ [.symbol ';'] := by
  have pieces : "let " ++ Phrase.brackets (Phrase.commas points) ++ " = self.points();" =
      "let [" ++ (Phrase.commas points ++ "] = self.points();") := by
    simp [Phrase.brackets, String.append_assoc, ← String.toList_inj]
  have opening : tokens "let [" = [.word "let".toList, .symbol '['] :=
    tokens_plain (by decide)
  have closing : tokens "] = self.points();" = [.symbol ']', .symbol '=',
      .word "self.points".toList, .symbol '(', .symbol ')', .symbol ';'] :=
    tokens_plain (by decide)
  rw [pieces, tokens_append (.inl (by decide)), opening,
    tokens_commas_append identifiers (by decide), closing]
  simp [takeTokens]

theorem tokens_pair {first second : List String}
    (firstNames : ∀ name ∈ first, isIdentifier name = true)
    (secondNames : ∀ name ∈ second, isIdentifier name = true) :
    tokens (Phrase.parens ("Self::new" ++ Phrase.parens (Phrase.commas first) ++ ", Self::new" ++
      Phrase.parens (Phrase.commas second))) = resultTokens first second := by
  have pieces : Phrase.parens ("Self::new" ++ Phrase.parens (Phrase.commas first) ++
      ", Self::new" ++ Phrase.parens (Phrase.commas second)) =
      "(Self::new(" ++ (Phrase.commas first ++ ("), Self::new(" ++
        (Phrase.commas second ++ "))"))) := by
    simp [Phrase.parens, String.append_assoc, ← String.toList_inj]
  have opening : tokens "(Self::new(" = .symbol '(' :: segmentConstructor ++ [.symbol '('] :=
    tokens_plain (by decide)
  have middle : tokens "), Self::new(" =
      .symbol ')' :: .symbol ',' :: segmentConstructor ++ [.symbol '('] :=
    tokens_plain (by decide)
  have closing : tokens "))" = [.symbol ')', .symbol ')'] := tokens_plain (by decide)
  rw [pieces, tokens_append (.inl (by decide)), opening,
    tokens_commas_append firstNames (startsApart_append _ (by decide)),
    tokens_append (.inl (by decide)), middle,
    tokens_commas_append secondNames (by decide), closing]
  simp [resultTokens]

/-- The points of both halves are control points and bound points. -/
theorem mem_splitHalves {name : String}
    (member : name ∈ (splitHalves points).1 ∨ name ∈ (splitHalves points).2) :
    name ∈ points ∨ ∃ b ∈ (PointBinding.rows points).flatten, b.name = name := by
  obtain ⟨row, inside, entry⟩ := Casteljau.mem_of_mem_edges member
  rcases List.mem_cons.mp inside with rfl | inside
  · exact .inl entry
  · obtain ⟨bindings, listed, rfl⟩ := List.mem_map.mp inside
    obtain ⟨b, bound, rfl⟩ := List.mem_map.mp entry
    exact .inr ⟨b, List.mem_flatten.mpr ⟨bindings, listed, bound⟩, rfl⟩

theorem holds_splitHalves {holds : String → Prop}
    (supplied : ∀ name ∈ "p" :: PointBinding.letters, holds name)
    (named : ∀ point ∈ points, holds point) :
    (∀ name ∈ (splitHalves points).1, holds name) ∧
      ∀ name ∈ (splitHalves points).2, holds name := by
  have half (name : String)
      (member : name ∈ (splitHalves points).1 ∨ name ∈ (splitHalves points).2) : holds name := by
    rcases mem_splitHalves member with point | ⟨b, bound, rfl⟩
    · exact named name point
    · exact (PointBinding.holds_rows supplied named b bound).1
  exact ⟨fun name member => half name (.inl member), fun name member => half name (.inr member)⟩

section Body

variable (identifiers : ∀ name ∈ points, isIdentifier name = true)
  (readable : ∀ b ∈ (PointBinding.rows points).flatten, b.Readable)

include identifiers readable

theorem isIdentifier_of_mem_splitHalves {name : String}
    (member : name ∈ (splitHalves points).1 ∨ name ∈ (splitHalves points).2) :
    isIdentifier name = true := by
  rcases mem_splitHalves member with point | ⟨b, bound, rfl⟩
  · exact identifiers name point
  · exact (readable b bound).name

/-- The tokens of the body: statements with semicolons behind them, and the pair of the halves. -/
theorem tokens_splitBody (d : Dimension) (level : Nat) :
    ((splitBody d points).linesAt level).flatMap tokens =
      ((takeTokens points ::
        (PointBinding.rows points).flatten.map (PointBinding.statementTokens d)).flatMap
          fun piece => piece ++ [.symbol ';']) ++
        resultTokens (splitHalves points).1 (splitHalves points).2 := by
  have statements : ((PointBinding.rows points).flatten.map (PointBinding.statement d)).flatMap
      (fun source => (source.linesAt level).flatMap tokens) =
      ((PointBinding.rows points).flatten.map (PointBinding.statementTokens d)).flatMap
        fun piece => piece ++ [.symbol ';'] := by
    rw [List.flatMap_map, List.flatMap_map]
    apply List.flatMap_congr
    intro b member
    exact PointBinding.tokens_statement d level (readable b member)
  have pair := tokens_pair
    (fun name member => isIdentifier_of_mem_splitHalves identifiers readable (.inl member))
    (fun name member => isIdentifier_of_mem_splitHalves identifiers readable (.inr member))
  simp only [splitBody, Source.linesAt_concat, List.flatMap_cons, List.flatMap_nil,
    Source.linesAt, List.flatMap_append, List.flatMap_assoc, tokens_indentation_append,
    tokens_takePoints identifiers, statements, List.append_nil, ← pair, List.append_assoc]
  rfl

theorem statements?_splitBody (d : Dimension) (nonempty : points ≠ []) :
    (takeTokens points :: (PointBinding.rows points).flatten.map
      (PointBinding.statementTokens d)).mapM statement? =
        some (splitProgram d points).statements := by
  have first : statement? (takeTokens points) = some (.points points) :=
    points?_tokens nonempty identifiers
  have others : ((PointBinding.rows points).flatten.map (PointBinding.statementTokens d)).mapM
      statement? = some ((PointBinding.rows points).flatten.map fun b =>
        Statement.define b.name (b.definition d)) := by
    rw [List.mapM_map]
    apply mapM_eq_some_map
    intro b member
    exact PointBinding.statement?_tokens d (readable b member)
  rw [List.mapM_cons, first, others]
  rfl

/-- The lines of the body are read as the program of the split. -/
theorem readProgram_splitBody (d : Dimension) (level : Nat) (nonempty : points ≠ []) :
    readProgram ((splitBody d points).linesAt level) = some (splitProgram d points) := by
  obtain ⟨firstNonempty, secondNonempty⟩ := Casteljau.edges_cons_ne_nil nonempty
    ((PointBinding.rows points).map fun row => row.map PointBinding.name)
  rw [readProgram, tokens_splitBody identifiers readable]
  refine program?_tokens ?_ ?_ (statements?_splitBody identifiers readable d nonempty) ?_
  · refine List.forall_mem_cons.mpr ⟨?_, ?_⟩
    · simp [takeTokens, not_mem_nameTokens]
    · intro piece member
      obtain ⟨b, -, rfl⟩ := List.mem_map.mp member
      exact PointBinding.not_mem_statementTokens d b
  · simp [resultTokens, segmentConstructor, not_mem_nameTokens]
  · apply result?_tokens firstNonempty secondNonempty
    · intro name member
      exact isIdentifier_of_mem_splitHalves identifiers readable (.inl member)
    · intro name member
      exact isIdentifier_of_mem_splitHalves identifiers readable (.inr member)

end Body

end Blueprint

end CurveForge
