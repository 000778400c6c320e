import CurveForge.Proofs.Formula.Rendering

/-!
# Words of a written formula

The words of a written formula are the names of its terms and the digits of its
literals. All whole literals of a formula follow the style of the sum that it is the
formula of. The formula zero has no literal: its digit is written without a style.
-/

namespace CurveForge

namespace Reading

/-- The name is a word of the text. -/
def Mentions (text name : String) : Prop := Token.word name.toList ∈ tokens text

/-- Digits with a point and a zero behind them. -/
def isDecimal (word : List Char) : Bool :=
  word.head?.any Char.isDigit && word.dropWhile Char.isDigit == ['.', '0']

/-- Every word of the text is an identifier or a decimal number. -/
def HasOnlyDecimals (text : String) : Prop :=
  ∀ word, .word word ∈ tokens text →
    isIdentifier (String.ofList word) = true ∨ isDecimal word = true

end Reading

open Reading

namespace NumberStyle

/-- A number starts with a digit and goes on with digits. -/
theorem digits_start (n : Nat) : ∃ first rest, Nat.toDigits 10 n = first :: rest ∧
    first.isDigit = true ∧ ∀ c ∈ rest, c.isDigit = true := by
  have digit : ∀ c ∈ Nat.toDigits 10 n, c.isDigit = true :=
    fun _ member => Nat.isDigit_of_mem_toDigits (by decide) (by decide) member
  obtain ⟨first, rest, spelled⟩ := List.exists_cons_of_ne_nil (Nat.toDigits_ne_nil (b := 10) (n := n))
  rw [spelled] at digit
  obtain ⟨front, others⟩ := List.forall_mem_cons.mp digit
  exact ⟨first, rest, spelled, front, others⟩

theorem not_isIdentifier_digits (style : NumberStyle) (n : Nat) :
    isIdentifier (String.ofList (style.digits n)) = false := by
  obtain ⟨first, rest, spelled, digit, -⟩ := digits_start n
  have letter := isAlphabetic_of_isDigit digit
  cases style <;> simp [isIdentifier, digits, spelled, letter]

theorem isDecimal_digits (n : Nat) : isDecimal (float.digits n) = true := by
  obtain ⟨first, rest, spelled, digit, others⟩ := digits_start n
  have dropped : (float.digits n).dropWhile Char.isDigit = ['.', '0'] := by
    rw [digits, List.dropWhile_append_of_pos]
    · rfl
    · rw [spelled]
      exact List.forall_mem_cons.mpr ⟨digit, others⟩
  unfold isDecimal
  rw [dropped, digits, spelled]
  simp [digit]

theorem word_mem_wordTokens {style : NumberStyle} {value : Int64} {word : List Char}
    (member : .word word ∈ style.wordTokens value) : ∃ n, word = style.digits n := by
  unfold wordTokens at member
  cases sign : value.toInt with
  | ofNat n => exact ⟨n, by simpa [sign] using member⟩
  | negSucc n => exact ⟨n + 1, by simpa [sign] using member⟩

end NumberStyle

namespace Literal

/-- A whole literal has the given style; a quotient is written with decimals in any style. -/
def InStyle (style : NumberStyle) : Literal → Prop
  | whole own _ => own = style
  | quotient _ _ => True

theorem inStyle_ofFraction (style : NumberStyle) (a : Fraction) :
    (ofFraction style a).InStyle style := by
  unfold ofFraction
  split
  · exact rfl
  · trivial

variable {literal : Literal} {word : List Char}

theorem word_mem_tokens (member : .word word ∈ literal.tokens) :
    ∃ style n, word = NumberStyle.digits style n ∧ (literal.InStyle .float → style = .float) := by
  cases literal with
  | whole style value =>
      obtain ⟨n, spelled⟩ := NumberStyle.word_mem_wordTokens member
      exact ⟨style, n, spelled, id⟩
  | quotient num den =>
      have inside : .word word ∈ NumberStyle.float.wordTokens num ∨
          .word word ∈ NumberStyle.float.wordTokens den := by
        simpa [tokens] using member
      rcases inside with inside | inside
      all_goals
        obtain ⟨n, spelled⟩ := NumberStyle.word_mem_wordTokens inside
        exact ⟨.float, n, spelled, fun _ => rfl⟩

theorem not_isIdentifier_of_mem (member : .word word ∈ literal.tokens) :
    isIdentifier (String.ofList word) = false := by
  obtain ⟨style, n, rfl, -⟩ := word_mem_tokens member
  exact style.not_isIdentifier_digits n

theorem isDecimal_of_mem (styled : literal.InStyle .float) (member : .word word ∈ literal.tokens) :
    isDecimal word = true := by
  obtain ⟨style, n, rfl, same⟩ := word_mem_tokens member
  rw [same styled]
  exact NumberStyle.isDecimal_digits n

end Literal

namespace SignedTerm

variable {term : SignedTerm} {word : List Char}

theorem word_mem_bodyTokens_iff : .word word ∈ term.bodyTokens ↔
    term.name.toList = word ∨ ∃ literal ∈ term.factor, .word word ∈ literal.tokens := by
  unfold bodyTokens
  cases term.factor with
  | none => simp [eq_comm]
  | some literal => simp [eq_comm, or_comm]

theorem word_mem_leadingTokens_iff : .word word ∈ term.leadingTokens ↔
    .word word ∈ term.bodyTokens := by
  unfold leadingTokens
  split <;> simp

theorem word_mem_followingTokens_iff : .word word ∈ term.followingTokens ↔
    .word word ∈ term.bodyTokens := by
  simp [followingTokens]

theorem word_mem_rowTokens_iff {terms : List SignedTerm} : .word word ∈ rowTokens terms ↔
    ∃ term ∈ terms, .word word ∈ term.bodyTokens := by
  cases terms with
  | nil => simp [rowTokens]
  | cons first rest =>
      simp [rowTokens, word_mem_leadingTokens_iff, word_mem_followingTokens_iff]

end SignedTerm

namespace Formula

/-- The literals of a formula: the factors of its terms and the scale in front or behind. -/
def literals : Formula → List Literal
  | zero => []
  | sum terms => terms.filterMap SignedTerm.factor
  | divided terms divisor => divisor :: terms.filterMap SignedTerm.factor
  | multiplied factor terms => factor :: terms.filterMap SignedTerm.factor

variable {formula : Formula} {word : List Char}

theorem word_mem_tokens_iff : .word word ∈ formula.tokens ↔
    (∃ term ∈ formula.terms, term.name.toList = word) ∨
    (∃ literal ∈ formula.literals, .word word ∈ literal.tokens) ∨
    (formula = .zero ∧ word = ['0']) := by
  have row (terms : List SignedTerm) : .word word ∈ SignedTerm.rowTokens terms ↔
      (∃ term ∈ terms, term.name.toList = word) ∨
      ∃ literal ∈ terms.filterMap SignedTerm.factor, .word word ∈ literal.tokens := by
    rw [SignedTerm.word_mem_rowTokens_iff]
    simp only [SignedTerm.word_mem_bodyTokens_iff, List.mem_filterMap, Option.mem_def]
    constructor
    · rintro ⟨term, member, named | ⟨literal, factor, inside⟩⟩
      · exact .inl ⟨term, member, named⟩
      · exact .inr ⟨literal, ⟨term, member, factor⟩, inside⟩
    · rintro (⟨term, member, named⟩ | ⟨literal, ⟨term, member, factor⟩, inside⟩)
      · exact ⟨term, member, .inl named⟩
      · exact ⟨term, member, .inr ⟨literal, factor, inside⟩⟩
  cases formula with
  | zero => simp [tokens, terms, literals]
  | sum terms => simp [tokens, Formula.terms, literals, row]
  | divided terms divisor =>
      simp [tokens, Formula.terms, literals, row, or_assoc, or_comm]
  | multiplied factor terms =>
      simp [tokens, Formula.terms, literals, row, or_left_comm]

/-- A formula mentions the names of its terms. -/
theorem mentions_text_iff (identifiers : ∀ term ∈ formula.terms, isIdentifier term.name = true)
    {name : String} (identifier : isIdentifier name = true) :
    Mentions formula.text name ↔ ∃ term ∈ formula.terms, term.name = name := by
  unfold Mentions
  rw [tokens_text identifiers, word_mem_tokens_iff]
  constructor
  · rintro (⟨term, member, same⟩ | ⟨literal, -, inside⟩ | ⟨-, zero⟩)
    · exact ⟨term, member, String.toList_inj.mp same⟩
    · have other := Literal.not_isIdentifier_of_mem inside
      rw [String.ofList_toList, identifier] at other
      cases other
    · have digit := NumberStyle.integer.not_isIdentifier_digits 0
      have spelled : NumberStyle.integer.digits 0 = ['0'] := rfl
      rw [spelled, ← zero, String.ofList_toList, identifier] at digit
      cases digit
  · rintro ⟨term, member, rfl⟩
    exact .inl ⟨term, member, rfl⟩

/-- With literals in the float style, only the formula zero has a number that is no decimal. -/
theorem hasOnlyDecimals_text_iff
    (identifiers : ∀ term ∈ formula.terms, isIdentifier term.name = true)
    (styled : ∀ literal ∈ formula.literals, literal.InStyle .float) :
    HasOnlyDecimals formula.text ↔ formula ≠ .zero := by
  unfold HasOnlyDecimals
  simp only [tokens_text identifiers, word_mem_tokens_iff]
  constructor
  · rintro decimals rfl
    rcases decimals ['0'] (.inr (.inr ⟨rfl, rfl⟩)) with identifier | decimal
    · have digit := NumberStyle.integer.not_isIdentifier_digits 0
      cases digit.symm.trans identifier
    · cases decimal
  · rintro other word (⟨term, member, rfl⟩ | ⟨literal, member, inside⟩ | ⟨zero, -⟩)
    · rw [String.ofList_toList]
      exact .inl (identifiers term member)
    · exact .inr (Literal.isDecimal_of_mem (styled literal member) inside)
    · exact absurd zero other

end Formula

namespace LinearSum

variable {sum : LinearSum} {formula : Formula}

theorem inStyle_of_signedTerm {style : NumberStyle} {weight : Fraction} {name : String}
    {signed : SignedTerm} (result : signedTerm style weight name = .ok signed) :
    ∀ literal ∈ signed.factor, literal.InStyle style := by
  unfold signedTerm at result
  split at result
  · cases result
    rintro _ ⟨⟩
  · split at result
    · cases result
      rintro _ ⟨⟩
    · split at result
      · obtain ⟨magnitude, -, done⟩ := Checked.bind_eq_ok_iff.mp result
        cases done
        rintro _ ⟨⟩
        exact Literal.inStyle_ofFraction style magnitude
      · cases result
        rintro _ ⟨⟩
        exact Literal.inStyle_ofFraction style weight

theorem inStyle_of_scaledTerms {scale : Fraction} {written : List SignedTerm}
    (result : sum.scaledTerms scale = .ok written) :
    ∀ literal ∈ written.filterMap SignedTerm.factor, literal.InStyle sum.style := by
  intro literal member
  obtain ⟨signed, inside, factor⟩ := List.mem_filterMap.mp member
  obtain ⟨term, -, scaled⟩ := exists_of_forall₂_of_mem (Checked.mapM_eq_ok_iff.mp result) inside
  obtain ⟨weight, -, signedResult⟩ := Checked.bind_eq_ok_iff.mp scaled
  exact inStyle_of_signedTerm signedResult literal factor

/-- Every literal of a formula, the scale included, has the style of the sum. -/
theorem inStyle_of_formula (result : sum.formula = .ok formula) :
    ∀ literal ∈ formula.literals, literal.InStyle sum.style := by
  by_cases empty : sum.terms = []
  · rw [LinearSum.formula, empty] at result
    cases result
    exact List.forall_mem_nil _
  rw [formula_of_nonempty empty] at result
  obtain ⟨scale?, -, result⟩ := Checked.bind_eq_ok_iff.mp result
  obtain ⟨written, scaled, done⟩ := Checked.bind_eq_ok_iff.mp result
  cases done
  have factors := inStyle_of_scaledTerms scaled
  unfold withScale
  split
  · exact factors
  · split
    · exact List.forall_mem_cons.mpr ⟨rfl, factors⟩
    · exact List.forall_mem_cons.mpr ⟨Literal.inStyle_ofFraction sum.style _, factors⟩

theorem formula_eq_zero_iff (result : sum.formula = .ok formula) :
    formula = .zero ↔ sum.terms = [] := by
  constructor
  · rintro rfl
    have names := names_of_formula result
    exact List.map_eq_nil_iff.mp names.symm
  · intro empty
    rw [LinearSum.formula, empty] at result
    cases result
    rfl

/-- The names of a formula are names of the sum. -/
theorem identifiers_of_formula (result : sum.formula = .ok formula)
    (identifiers : ∀ term ∈ sum.terms, isIdentifier term.name = true) :
    ∀ signed ∈ formula.terms, isIdentifier signed.name = true := by
  intro signed member
  obtain ⟨term, inside, same⟩ := exists_term_of_formula result member
  exact same ▸ identifiers term inside

/-- The written form of a sum mentions the names of its terms. -/
theorem mentions_formula_iff (result : sum.formula = .ok formula)
    (identifiers : ∀ term ∈ sum.terms, isIdentifier term.name = true) {name : String}
    (identifier : isIdentifier name = true) :
    Mentions formula.text name ↔ ∃ term ∈ sum.terms, term.name = name := by
  rw [Formula.mentions_text_iff (identifiers_of_formula result identifiers) identifier,
    ← List.mem_map, ← List.mem_map, names_of_formula result]

/-- In the float style, only a sum without terms has a number that is no decimal. -/
theorem hasOnlyDecimals_formula_iff (result : sum.formula = .ok formula)
    (identifiers : ∀ term ∈ sum.terms, isIdentifier term.name = true)
    (float : sum.style = .float) : HasOnlyDecimals formula.text ↔ sum.terms ≠ [] := by
  rw [Formula.hasOnlyDecimals_text_iff (identifiers_of_formula result identifiers)
    (float ▸ inStyle_of_formula result), ne_eq, formula_eq_zero_iff result]

end LinearSum

end CurveForge
