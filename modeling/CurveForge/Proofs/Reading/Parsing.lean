import Mathlib
import CurveForge.Proofs.Reading.Formula

/-!
# Parsing formulas

The tokens of a formula are parsed as its expression, whatever follows them, as
long as that cannot go on with the formula. Reading a written formula therefore
gives its expression.
-/

namespace CurveForge

open Reading

namespace Reading

variable {fuel : Nat} {left right inner : Expression} {tokens rest : List Token}

theorem sum?_rule (read : product? fuel tokens = some (left, rest)) :
    sum? (fuel + 1) tokens = sumTail? fuel left rest := by
  rw [sum?, read, Option.bind_some]

theorem sumTail?_plus (read : product? fuel tokens = some (right, rest)) :
    sumTail? (fuel + 1) left (.symbol '+' :: tokens) = sumTail? fuel (.sum left right) rest := by
  rw [sumTail?, read, Option.bind_some]

theorem sumTail?_minus (read : product? fuel tokens = some (right, rest)) :
    sumTail? (fuel + 1) left (.symbol '-' :: tokens) =
      sumTail? fuel (.difference left right) rest := by
  rw [sumTail?, read, Option.bind_some]

theorem product?_rule (read : factor? fuel tokens = some (left, rest)) :
    product? (fuel + 1) tokens = productTail? fuel left rest := by
  rw [product?, read, Option.bind_some]

theorem productTail?_times (read : factor? fuel tokens = some (right, rest)) :
    productTail? (fuel + 1) left (.symbol '*' :: tokens) =
      productTail? fuel (.product left right) rest := by
  rw [productTail?, read, Option.bind_some]

theorem productTail?_over (read : factor? fuel tokens = some (right, rest)) :
    productTail? (fuel + 1) left (.symbol '/' :: tokens) =
      productTail? fuel (.quotient left right) rest := by
  rw [productTail?, read, Option.bind_some]

theorem factor?_minus (read : factor? fuel tokens = some (inner, rest)) :
    factor? (fuel + 1) (.symbol '-' :: tokens) = some (.negated inner, rest) := by
  rw [factor?, read, Option.map_some]

theorem factor?_parens (read : sum? fuel tokens = some (inner, .symbol ')' :: rest)) :
    factor? (fuel + 1) (.symbol '(' :: tokens) = some (inner, rest) := by
  simp only [factor?, read, Option.bind_some]

theorem factor?_word {word : List Char} (read : atom? word = some inner) :
    factor? (fuel + 1) (.word word :: rest) = some (inner, rest) := by
  rw [factor?, read, Option.map_some]

/-- Tokens that do not go on with a product. -/
def EndsProduct : List Token → Prop
  | [] => True
  | .word _ :: _ => False
  | .symbol c :: _ => c ≠ '*' ∧ c ≠ '/'

def EndsSum : List Token → Prop
  | [] => True
  | .word _ :: _ => False
  | .symbol c :: _ => (c ≠ '*' ∧ c ≠ '/') ∧ c ≠ '+' ∧ c ≠ '-'

theorem EndsSum.endsProduct (ends : EndsSum rest) : EndsProduct rest := by
  cases rest with
  | nil => trivial
  | cons token rest =>
      cases token with
      | word text => exact ends
      | symbol c => exact ends.1

theorem endsSum_closing (rest : List Token) : EndsSum (.symbol ')' :: rest) := by
  simp [EndsSum]

theorem productTail?_ends (ends : EndsProduct rest) :
    productTail? (fuel + 1) left rest = some (left, rest) := by
  unfold productTail?
  split <;> simp_all [EndsProduct]

theorem sumTail?_ends (ends : EndsSum rest) :
    sumTail? (fuel + 1) left rest = some (left, rest) := by
  unfold sumTail?
  split <;> simp_all [EndsSum]

/-- A factor alone is a product. -/
theorem product?_factor (read : factor? (fuel + 1) tokens = some (left, rest))
    (ends : EndsProduct rest) : product? (fuel + 2) tokens = some (left, rest) := by
  rw [product?_rule read, productTail?_ends ends]

/-- Two factors with a sign between them are a product. -/
theorem product?_times {middle : List Token}
    (first : factor? (fuel + 2) tokens = some (left, .symbol '*' :: middle))
    (second : factor? (fuel + 1) middle = some (right, rest)) (ends : EndsProduct rest) :
    product? (fuel + 3) tokens = some (.product left right, rest) := by
  rw [product?_rule first, productTail?_times second, productTail?_ends ends]

theorem product?_over {middle : List Token}
    (first : factor? (fuel + 2) tokens = some (left, .symbol '/' :: middle))
    (second : factor? (fuel + 1) middle = some (right, rest)) (ends : EndsProduct rest) :
    product? (fuel + 3) tokens = some (.quotient left right, rest) := by
  rw [product?_rule first, productTail?_over second, productTail?_ends ends]

/-- A product alone is a sum. -/
theorem sum?_product (read : product? (fuel + 1) tokens = some (left, rest))
    (ends : EndsSum rest) : sum? (fuel + 2) tokens = some (left, rest) := by
  rw [sum?_rule read, sumTail?_ends ends]

end Reading

theorem factor?_wordTokens (style : NumberStyle) (value : Int64) {fuel : Nat} (enough : 2 ≤ fuel)
    (rest : List Token) :
    factor? fuel (style.wordTokens value ++ rest) = some (wordExpression value, rest) := by
  obtain ⟨fuel, rfl⟩ := Nat.exists_eq_add_of_le' enough
  unfold NumberStyle.wordTokens wordExpression
  cases value.toInt with
  | ofNat n => exact factor?_word (style.atom?_digits n)
  | negSucc n => exact factor?_minus (factor?_word (style.atom?_digits (n + 1)))

theorem Literal.factor?_tokens (literal : Literal) {fuel : Nat} (enough : 6 ≤ fuel)
    (rest : List Token) :
    factor? fuel (literal.tokens ++ rest) = some (literal.expression, rest) := by
  obtain ⟨fuel, rfl⟩ := Nat.exists_eq_add_of_le' enough
  cases literal with
  | whole style value => exact factor?_wordTokens style value (by omega) rest
  | quotient num den =>
      have ends := endsSum_closing rest
      have numerator := factor?_wordTokens .float num (show 2 ≤ fuel + 3 by omega)
        (.symbol '/' :: (NumberStyle.float.wordTokens den ++ .symbol ')' :: rest))
      have denominator := factor?_wordTokens .float den (show 2 ≤ fuel + 2 by omega)
        (.symbol ')' :: rest)
      have split : (Literal.quotient num den).tokens ++ rest =
          .symbol '(' :: (NumberStyle.float.wordTokens num ++
            .symbol '/' :: (NumberStyle.float.wordTokens den ++ .symbol ')' :: rest)) := by
        simp [tokens]
      rw [split]
      exact factor?_parens
        (sum?_product (product?_over numerator denominator ends.endsProduct) ends)

namespace SignedTerm

variable {term : SignedTerm} {fuel : Nat} {rest : List Token}

theorem product?_body (readable : term.Readable) (enough : 8 ≤ fuel) (ends : EndsProduct rest) :
    product? fuel (term.bodyTokens ++ rest) = some (term.body, rest) := by
  obtain ⟨fuel, rfl⟩ := Nat.exists_eq_add_of_le' enough
  have name := atom?_identifier readable.identifier
  unfold bodyTokens body
  cases factor : term.factor with
  | none => exact product?_factor (factor?_word name) ends
  | some literal =>
      have number := literal.factor?_tokens (show 6 ≤ fuel + 7 by omega) (.symbol '*' :: .word term.name.toList :: rest)
      rw [List.append_assoc]
      exact product?_times number (factor?_word name) ends

theorem product?_leading (readable : term.Readable) (enough : 8 ≤ fuel) (ends : EndsProduct rest) :
    product? fuel (term.leadingTokens ++ rest) = some (term.leading, rest) := by
  unfold leadingTokens leading
  cases negative : term.negative with
  | false => exact product?_body readable enough ends
  | true =>
      obtain ⟨fuel, rfl⟩ := Nat.exists_eq_add_of_le' enough
      have name := atom?_identifier readable.identifier
      unfold bodyTokens
      cases factor : term.factor with
      | none => exact product?_factor (factor?_minus (factor?_word name)) ends
      | some literal =>
          have number := literal.factor?_tokens (show 6 ≤ fuel + 6 by omega) (.symbol '*' :: .word term.name.toList :: rest)
          rw [if_pos rfl, List.cons_append, List.append_assoc]
          exact product?_times (factor?_minus number) (factor?_word name) ends

/-- What follows a term is the sign of the next one or the end of the sum. -/
theorem endsProduct_following (terms : List SignedTerm) (ends : EndsSum rest) :
    EndsProduct (terms.flatMap followingTokens ++ rest) := by
  cases terms with
  | nil => exact ends.endsProduct
  | cons term terms =>
      cases negative : term.negative with
      | false => simp [followingTokens, negative, EndsProduct]
      | true => simp [followingTokens, negative, EndsProduct]

/-- The induction is on the terms; each one spends a unit of fuel. -/
theorem sumTail?_following (terms : List SignedTerm) (readable : ∀ term ∈ terms, term.Readable)
    (left : Expression) (enough : terms.length + 8 ≤ fuel) (ends : EndsSum rest) :
    sumTail? fuel left (terms.flatMap followingTokens ++ rest) =
      some (terms.foldl after left, rest) := by
  induction terms generalizing left fuel with
  | nil =>
      obtain ⟨fuel, rfl⟩ := Nat.exists_eq_add_of_le' enough
      exact sumTail?_ends ends
  | cons term terms ih =>
      obtain ⟨first, others⟩ := List.forall_mem_cons.mp readable
      rw [List.length_cons] at enough
      obtain ⟨fuel, rfl⟩ : ∃ spent, fuel = spent + 1 := ⟨fuel - 1, by omega⟩
      have product := product?_body first (show 8 ≤ fuel by omega)
        (endsProduct_following terms ends)
      rw [List.flatMap_cons, followingTokens, List.foldl_cons, after, List.append_assoc,
        List.cons_append]
      cases negative : term.negative with
      | false => exact (sumTail?_plus product).trans (ih others _ (by omega))
      | true => exact (sumTail?_minus product).trans (ih others _ (by omega))

theorem sum?_row {terms : List SignedTerm} (nonempty : terms ≠ [])
    (readable : ∀ term ∈ terms, term.Readable) (enough : terms.length + 8 ≤ fuel)
    (ends : EndsSum rest) : sum? fuel (rowTokens terms ++ rest) = some (row terms, rest) := by
  cases terms with
  | nil => exact absurd rfl nonempty
  | cons first others =>
      obtain ⟨firstReadable, othersReadable⟩ := List.forall_mem_cons.mp readable
      rw [List.length_cons] at enough
      obtain ⟨fuel, rfl⟩ : ∃ spent, fuel = spent + 1 := ⟨fuel - 1, by omega⟩
      have product := product?_leading firstReadable (show 8 ≤ fuel by omega)
        (endsProduct_following others ends)
      rw [rowTokens, List.append_assoc, sum?_rule product]
      exact sumTail?_following others othersReadable _ (by omega) ends

/-- A row of terms has at least as many tokens as terms. -/
theorem length_le_rowTokens (terms : List SignedTerm) :
    terms.length ≤ (rowTokens terms).length := by
  have body (term : SignedTerm) : 1 ≤ term.bodyTokens.length := by
    cases factor : term.factor <;> simp [bodyTokens, factor]
  have following (others : List SignedTerm) :
      others.length ≤ (others.flatMap followingTokens).length := by
    induction others with
    | nil => simp
    | cons term others ih =>
        simp only [List.flatMap_cons, List.length_cons, List.length_append, followingTokens]
        omega
  cases terms with
  | nil => simp
  | cons first others =>
      have atLeast : 1 ≤ first.leadingTokens.length := by
        have := body first
        cases negative : first.negative <;> simp [leadingTokens, negative, this]
      have := following others
      simp only [rowTokens, List.length_append, List.length_cons]
      omega

end SignedTerm

namespace Formula

theorem sum?_tokens {formula : Formula} (readable : formula.Readable) {fuel : Nat}
    (enough : 8 * formula.tokens.length + 8 ≤ fuel) :
    sum? fuel formula.tokens = some (formula.expression, []) := by
  have nothing : EndsSum [] := trivial
  obtain ⟨fuel, rfl⟩ : ∃ spent, fuel = spent + 3 := ⟨fuel - 3, by omega⟩
  cases formula with
  | zero => exact sum?_product (product?_factor (factor?_word (atom?_whole 0)) trivial) nothing
  | sum terms =>
      have short := SignedTerm.length_le_rowTokens terms
      have positive := List.length_pos_iff.mpr readable.1
      simp only [tokens] at enough
      have row := SignedTerm.sum?_row readable.1 readable.2
        (show terms.length + 8 ≤ fuel + 3 by omega) nothing
      rwa [List.append_nil] at row
  | divided terms divisor =>
      have short := SignedTerm.length_le_rowTokens terms
      simp only [tokens, List.cons_append, List.length_cons, List.length_append] at enough
      have row := SignedTerm.sum?_row readable.1 readable.2.1
        (show terms.length + 8 ≤ fuel by omega) (endsSum_closing (.symbol '/' :: divisor.tokens))
      have number := divisor.factor?_tokens (show 6 ≤ fuel by omega) []
      rw [List.append_nil] at number
      obtain ⟨fuel, rfl⟩ : ∃ spent, fuel = spent + 1 := ⟨fuel - 1, by omega⟩
      exact sum?_product (product?_over (factor?_parens row) number trivial) nothing
  | multiplied factor terms =>
      have short := SignedTerm.length_le_rowTokens terms
      simp only [tokens, List.append_assoc, List.cons_append, List.length_cons,
        List.length_append] at enough ⊢
      obtain ⟨fuel, rfl⟩ : ∃ spent, fuel = spent + 1 := ⟨fuel - 1, by omega⟩
      have row := SignedTerm.sum?_row readable.1 readable.2.1
        (show terms.length + 8 ≤ fuel by omega) (endsSum_closing [])
      have number := factor.factor?_tokens (show 6 ≤ fuel + 2 by omega)
        (.symbol '*' :: .symbol '(' :: (SignedTerm.rowTokens terms ++ [.symbol ')']))
      exact sum?_product (product?_times number (factor?_parens row) trivial) nothing

/-- Reading the written form of a formula gives its expression. -/
theorem parse_text {formula : Formula} (readable : formula.Readable) :
    parse formula.text = some formula.expression := by
  rw [parse, tokens_text readable.identifiers, expressionOf?, sum?_tokens readable le_rfl]

end Formula

end CurveForge
