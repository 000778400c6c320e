import Mathlib
import CurveForge.Formula
import CurveForge.Proofs.Reading.Expression
import CurveForge.Proofs.Text

/-!
# Reading formulas

The written form of a formula is read back as one expression, whose shape follows
from the formula. Names have to be identifiers and nothing may be divided by zero.
-/

namespace CurveForge

open Reading

namespace NumberStyle

def digits : NumberStyle → Nat → List Char
  | integer, n => Nat.toDigits 10 n
  | float, n => Nat.toDigits 10 n ++ ['.', '0']

/-- The tokens of a word; a minus sign is a token of its own. -/
def wordTokens (style : NumberStyle) (value : Int64) : List Token :=
  match value.toInt with
  | .ofNat n => [.word (style.digits n)]
  | .negSucc n => [.symbol '-', .word (style.digits (n + 1))]

end NumberStyle

/-- A word as an expression; a minus sign stands before the number. -/
def wordExpression (value : Int64) : Expression :=
  match value.toInt with
  | .ofNat n => .number n
  | .negSucc n => .negated (.number (n + 1 : Nat))

namespace Literal

def HasValue : Literal → Prop
  | whole _ _ => True
  | quotient _ den => den.toInt ≠ 0

def value : Literal → ℚ
  | whole _ value => value.toInt
  | quotient num den => num.toInt / den.toInt

def tokens : Literal → List Token
  | whole style value => style.wordTokens value
  | quotient num den =>
      .symbol '(' :: NumberStyle.float.wordTokens num ++
        .symbol '/' :: NumberStyle.float.wordTokens den ++ [.symbol ')']

def expression : Literal → Expression
  | whole _ value => wordExpression value
  | quotient num den => .quotient (wordExpression num) (wordExpression den)

end Literal

namespace SignedTerm

/-- The name is an identifier and the factor has a value. -/
structure Readable (term : SignedTerm) : Prop where
  identifier : isIdentifier term.name = true
  hasValue : ∀ literal, term.factor = some literal → literal.HasValue

def bodyTokens (term : SignedTerm) : List Token :=
  match term.factor with
  | some literal => literal.tokens ++ [.symbol '*', .word term.name.toList]
  | none => [.word term.name.toList]

def body (term : SignedTerm) : Expression :=
  match term.factor with
  | some literal => .product literal.expression (.variable term.name)
  | none => .variable term.name

def leadingTokens (term : SignedTerm) : List Token :=
  if term.negative then .symbol '-' :: term.bodyTokens else term.bodyTokens

/-- The term at the start of a sum; a minus sign belongs to its first factor. -/
def leading (term : SignedTerm) : Expression :=
  if term.negative then
    match term.factor with
    | some literal => .product (.negated literal.expression) (.variable term.name)
    | none => .negated (.variable term.name)
  else term.body

def followingTokens (term : SignedTerm) : List Token :=
  .symbol (if term.negative then '-' else '+') :: term.bodyTokens

/-- The term behind others in a sum. -/
def after (left : Expression) (term : SignedTerm) : Expression :=
  if term.negative then .difference left term.body else .sum left term.body

def rowTokens : List SignedTerm → List Token
  | [] => []
  | first :: rest => first.leadingTokens ++ rest.flatMap followingTokens

def row : List SignedTerm → Expression
  | [] => .number 0
  | first :: rest => rest.foldl after first.leading

end SignedTerm

namespace Formula

def terms : Formula → List SignedTerm
  | zero => []
  | sum terms => terms
  | divided terms _ => terms
  | multiplied _ terms => terms

def Readable : Formula → Prop
  | zero => True
  | sum terms => terms ≠ [] ∧ ∀ term ∈ terms, term.Readable
  | divided terms divisor =>
      terms ≠ [] ∧ (∀ term ∈ terms, term.Readable) ∧ divisor.HasValue ∧ divisor.value ≠ 0
  | multiplied factor terms => terms ≠ [] ∧ (∀ term ∈ terms, term.Readable) ∧ factor.HasValue

def tokens : Formula → List Token
  | zero => [.word ['0']]
  | sum terms => SignedTerm.rowTokens terms
  | divided terms divisor =>
      .symbol '(' :: SignedTerm.rowTokens terms ++ .symbol ')' :: .symbol '/' :: divisor.tokens
  | multiplied factor terms =>
      factor.tokens ++ .symbol '*' :: .symbol '(' :: SignedTerm.rowTokens terms ++ [.symbol ')']

def expression : Formula → Expression
  | zero => .number 0
  | sum terms => SignedTerm.row terms
  | divided terms divisor => .quotient (SignedTerm.row terms) divisor.expression
  | multiplied factor terms => .product factor.expression (SignedTerm.row terms)

end Formula

namespace NumberStyle

theorem toList_wordText (style : NumberStyle) (value : Int64) :
    (style.wordText value).toList = match value.toInt with
      | .ofNat n => style.digits n
      | .negSucc n => '-' :: style.digits (n + 1) := by
  have chars : (Fraction.wordText value).toList = match value.toInt with
      | .ofNat n => Nat.toDigits 10 n
      | .negSucc n => '-' :: Nat.toDigits 10 (n + 1) := by
    unfold Fraction.wordText
    exact Text.toList_toString_int value.toInt
  cases style with
  | integer => exact chars
  | float =>
      rw [wordText, String.toList_append, chars]
      cases value.toInt <;> rfl

theorem atom?_digits (style : NumberStyle) (n : Nat) :
    atom? (style.digits n) = some (.number n) := by
  cases style with
  | integer => exact atom?_whole n
  | float => exact atom?_decimal n

theorem isWordChar_of_mem_digits (style : NumberStyle) (n : Nat) :
    ∀ c ∈ style.digits n, isWordChar c = true := by
  have plain : ∀ c ∈ Nat.toDigits 10 n, isWordChar c = true :=
    fun c member => isWordChar_of_isNameChar (isNameChar_of_mem_toDigits c member)
  cases style with
  | integer => exact plain
  | float =>
      intro c member
      rcases List.mem_append.mp member with member | member
      · exact plain c member
      · rcases List.mem_pair.mp member with rfl | rfl
        · exact isWordChar_dot
        · exact isWordChar_of_isDigit (by decide)

theorem digits_ne_nil (style : NumberStyle) (n : Nat) : style.digits n ≠ [] := by
  intro empty
  have atom := style.atom?_digits n
  rw [empty] at atom
  cases atom

theorem scan_wordText (style : NumberStyle) (value : Int64) {rest : List Char}
    (breaks : Breaks rest) :
    scan [] ((style.wordText value).toList ++ rest) = style.wordTokens value ++ scan [] rest := by
  have word (n : Nat) : scan [] (style.digits n ++ rest) = .word (style.digits n) :: scan [] rest :=
    scan_word (style.digits_ne_nil n) (style.isWordChar_of_mem_digits n) breaks
  rw [toList_wordText, wordTokens]
  cases value.toInt with
  | ofNat n => exact word n
  | negSucc n =>
      change scan [] ('-' :: (style.digits (n + 1) ++ rest)) = _
      rw [scan_punctuation _ (by decide), word]
      rfl

end NumberStyle

theorem Literal.scan_text (literal : Literal) {rest : List Char} (breaks : Breaks rest) :
    scan [] (literal.text.toList ++ rest) = literal.tokens ++ scan [] rest := by
  cases literal with
  | whole style value => exact style.scan_wordText value breaks
  | quotient num den =>
      have slash : Breaks ('/' :: ((NumberStyle.float.wordText den).toList ++ ')' :: rest)) :=
        breaks_punctuation _ (by decide)
      have closing : Breaks (')' :: rest) := breaks_punctuation _ (by decide)
      have chars : (Literal.quotient num den).text.toList ++ rest =
          '(' :: ((NumberStyle.float.wordText num).toList ++
            '/' :: ((NumberStyle.float.wordText den).toList ++ ')' :: rest)) := by
        simp [Literal.text]
      rw [chars, scan_punctuation _ (by decide), NumberStyle.scan_wordText _ num slash,
        scan_punctuation _ (by decide), NumberStyle.scan_wordText _ den closing,
        scan_punctuation _ (by decide)]
      simp [tokens]

namespace SignedTerm

variable {term : SignedTerm}

theorem scan_body (identifier : isIdentifier term.name = true) {rest : List Char} (breaks : Breaks rest) :
    scan [] ((term.factorText ++ term.name).toList ++ rest) = term.bodyTokens ++ scan [] rest := by
  cases factor : term.factor with
  | none => simpa [factorText, bodyTokens, factor] using scan_identifier identifier breaks
  | some literal =>
      have star : Breaks ('*' :: (term.name.toList ++ rest)) := breaks_punctuation _ (by decide)
      have chars : (term.factorText ++ term.name).toList ++ rest =
          literal.text.toList ++ '*' :: (term.name.toList ++ rest) := by
        simp [factorText, factor]
      rw [chars, literal.scan_text star,
        scan_punctuation _ (by decide), scan_identifier identifier breaks]
      simp [bodyTokens, factor]

theorem scan_leading (identifier : isIdentifier term.name = true) {rest : List Char} (breaks : Breaks rest) :
    scan [] ((term.text true).toList ++ rest) = term.leadingTokens ++ scan [] rest := by
  have body := scan_body identifier breaks
  cases negative : term.negative with
  | false => simpa [text, signText, negative, leadingTokens] using body
  | true =>
      have chars : (term.text true).toList ++ rest =
          '-' :: ((term.factorText ++ term.name).toList ++ rest) := by
        simp [text, signText, negative]
      rw [chars, scan_punctuation _ (by decide), body]
      simp [leadingTokens, negative]

theorem scan_following (identifier : isIdentifier term.name = true) {rest : List Char} (breaks : Breaks rest) :
    scan [] ((term.text false).toList ++ rest) = term.followingTokens ++ scan [] rest := by
  have body := scan_body identifier breaks
  cases negative : term.negative with
  | false =>
      have chars : (term.text false).toList ++ rest =
          '+' :: ((term.factorText ++ term.name).toList ++ rest) := by
        simp [text, signText, negative]
      rw [chars, scan_punctuation _ (by decide), body]
      simp [followingTokens, negative]
  | true =>
      have chars : (term.text false).toList ++ rest =
          '-' :: ((term.factorText ++ term.name).toList ++ rest) := by
        simp [text, signText, negative]
      rw [chars, scan_punctuation _ (by decide), body]
      simp [followingTokens, negative]

/-- A further term starts with its sign, so the word before it ends. -/
theorem breaks_following (rest : List SignedTerm) {tail : List Char} (breaks : Breaks tail) :
    Breaks ((String.join (rest.map (text false))).toList ++ tail) := by
  cases rest with
  | nil => simpa using breaks
  | cons term rest =>
      cases negative : term.negative with
      | false =>
          have chars : ∃ more, (String.join ((term :: rest).map (text false))).toList ++ tail =
              '+' :: more := ⟨_, by simp [text, signText, negative]; rfl⟩
          obtain ⟨more, chars⟩ := chars
          exact chars ▸ breaks_punctuation more (by decide)
      | true =>
          have chars : ∃ more, (String.join ((term :: rest).map (text false))).toList ++ tail =
              '-' :: more := ⟨_, by simp [text, signText, negative]; rfl⟩
          obtain ⟨more, chars⟩ := chars
          exact chars ▸ breaks_punctuation more (by decide)

theorem scan_followers (terms : List SignedTerm)
    (identifiers : ∀ term ∈ terms, isIdentifier term.name = true) {tail : List Char}
    (breaks : Breaks tail) :
    scan [] ((String.join (terms.map (text false))).toList ++ tail) =
      terms.flatMap followingTokens ++ scan [] tail := by
  induction terms with
  | nil => simp
  | cons term rest ih =>
      obtain ⟨identifier, others⟩ := List.forall_mem_cons.mp identifiers
      rw [List.map_cons, String.join_cons, String.toList_append, List.append_assoc,
        scan_following identifier (breaks_following rest breaks), ih others,
        List.flatMap_cons, List.append_assoc]

theorem scan_row (terms : List SignedTerm)
    (identifiers : ∀ term ∈ terms, isIdentifier term.name = true) {tail : List Char}
    (breaks : Breaks tail) :
    scan [] ((rowText terms).toList ++ tail) = rowTokens terms ++ scan [] tail := by
  cases terms with
  | nil => simp [rowText, rowTokens]
  | cons first rest =>
      obtain ⟨identifier, others⟩ := List.forall_mem_cons.mp identifiers
      rw [rowText, String.toList_append, List.append_assoc,
        scan_leading identifier (breaks_following rest breaks),
        scan_followers rest others breaks, rowTokens, List.append_assoc]

end SignedTerm

namespace Formula

variable {formula : Formula}

/-- The tokens of a written formula. Names have to be identifiers, literals need no value. -/
theorem scan_text (identifiers : ∀ term ∈ formula.terms, isIdentifier term.name = true)
    {rest : List Char} (breaks : Breaks rest) :
    scan [] (formula.text.toList ++ rest) = formula.tokens ++ scan [] rest := by
  have closing (more : List Char) : Breaks (')' :: more) := breaks_punctuation _ (by decide)
  cases formula with
  | zero =>
      have chars : Formula.zero.text.toList = ['0'] := by simp [Formula.text]
      have digit : ∀ c ∈ ['0'], isWordChar c = true := by
        intro c member
        rw [List.mem_singleton.mp member]
        exact isWordChar_of_isDigit rfl
      rw [chars]
      exact scan_word (List.cons_ne_nil _ _) digit breaks
  | sum terms => exact SignedTerm.scan_row terms identifiers breaks
  | divided terms divisor =>
      have chars : (Formula.divided terms divisor).text.toList ++ rest =
          '(' :: ((SignedTerm.rowText terms).toList ++
            ')' :: '/' :: (divisor.text.toList ++ rest)) := by
        simp [Formula.text]
      rw [chars, scan_punctuation _ (by decide),
        SignedTerm.scan_row terms identifiers (closing _), scan_punctuation _ (by decide),
        scan_punctuation _ (by decide), divisor.scan_text breaks]
      simp [Formula.tokens]
  | multiplied factor terms =>
      have star : Breaks ('*' :: '(' :: ((SignedTerm.rowText terms).toList ++ ')' :: rest)) :=
        breaks_punctuation _ (by decide)
      have chars : (Formula.multiplied factor terms).text.toList ++ rest =
          factor.text.toList ++
            '*' :: '(' :: ((SignedTerm.rowText terms).toList ++ ')' :: rest) := by
        simp [Formula.text]
      rw [chars, factor.scan_text star, scan_punctuation _ (by decide),
        scan_punctuation _ (by decide), SignedTerm.scan_row terms identifiers (closing _),
        scan_punctuation _ (by decide)]
      simp [Formula.tokens]

theorem tokens_text (identifiers : ∀ term ∈ formula.terms, isIdentifier term.name = true) :
    Reading.tokens formula.text = formula.tokens := by
  simpa [Reading.tokens, scan, flush] using scan_text identifiers (show Breaks [] from trivial)

theorem Readable.identifiers (readable : formula.Readable) :
    ∀ term ∈ formula.terms, isIdentifier term.name = true := by
  cases formula with
  | zero => exact List.forall_mem_nil _
  | sum terms => exact fun term member => (readable.2 term member).identifier
  | divided terms divisor => exact fun term member => (readable.2.1 term member).identifier
  | multiplied factor terms => exact fun term member => (readable.2.1 term member).identifier

end Formula

end CurveForge
