import Mathlib
import CurveForge.Proofs.Reading.Token

/-!
# Expressions in emitted text

The second step of reading builds expressions from tokens by the ordinary grammar
of arithmetic.

* A sum is a row of products joined by `+` and `-`.
* A product is a row of factors joined by `*` and `/`.
* A factor is a minus sign before a factor, a sum in parentheses, a number, a
  variable, or a component of a variable.

Rows are taken from the left. Numbers are read as exact rational numbers. Every
call spends one unit of fuel; eight for each token are always enough.
-/

namespace CurveForge.Reading

inductive Expression where
  | number (value : ℚ)
  | variable (name : String)
  | component (name field : String)
  | negated (operand : Expression)
  | sum (left right : Expression)
  | difference (left right : Expression)
  | product (left right : Expression)
  | quotient (left right : Expression)
  deriving DecidableEq

def digitsValue (digits : List Char) : Nat := Nat.ofDigitChars 10 digits 0

def areDigits (word : List Char) : Bool := !word.isEmpty && word.all Char.isDigit

/-- A word is a whole number, a decimal number, a variable, or a component of a variable. -/
def atom? (word : List Char) : Option Expression :=
  match word.splitOn '.' with
  | [name] =>
      if areDigits name then some (.number (digitsValue name))
      else if isIdentifier (String.ofList name) then some (.variable (String.ofList name))
      else none
  | [whole, rest] =>
      if areDigits whole && areDigits rest then
        some (.number (digitsValue (whole ++ rest) / 10 ^ rest.length))
      else if isIdentifier (String.ofList whole) && isIdentifier (String.ofList rest) then
        some (.component (String.ofList whole) (String.ofList rest))
      else none
  | _ => none

mutual

def sum? : Nat → List Token → Option (Expression × List Token)
  | 0, _ => none
  | fuel + 1, tokens => (product? fuel tokens).bind fun read => sumTail? fuel read.1 read.2

def sumTail? : Nat → Expression → List Token → Option (Expression × List Token)
  | 0, _, _ => none
  | fuel + 1, left, .symbol '+' :: tokens =>
      (product? fuel tokens).bind fun read => sumTail? fuel (.sum left read.1) read.2
  | fuel + 1, left, .symbol '-' :: tokens =>
      (product? fuel tokens).bind fun read => sumTail? fuel (.difference left read.1) read.2
  | _ + 1, left, tokens => some (left, tokens)

def product? : Nat → List Token → Option (Expression × List Token)
  | 0, _ => none
  | fuel + 1, tokens => (factor? fuel tokens).bind fun read => productTail? fuel read.1 read.2

def productTail? : Nat → Expression → List Token → Option (Expression × List Token)
  | 0, _, _ => none
  | fuel + 1, left, .symbol '*' :: tokens =>
      (factor? fuel tokens).bind fun read => productTail? fuel (.product left read.1) read.2
  | fuel + 1, left, .symbol '/' :: tokens =>
      (factor? fuel tokens).bind fun read => productTail? fuel (.quotient left read.1) read.2
  | _ + 1, left, tokens => some (left, tokens)

def factor? : Nat → List Token → Option (Expression × List Token)
  | 0, _ => none
  | fuel + 1, .symbol '-' :: tokens =>
      (factor? fuel tokens).map fun read => (.negated read.1, read.2)
  | fuel + 1, .symbol '(' :: tokens =>
      (sum? fuel tokens).bind fun
        | (inner, .symbol ')' :: rest) => some (inner, rest)
        | _ => none
  | _ + 1, .word word :: tokens => (atom? word).map fun atom => (atom, tokens)
  | _ + 1, _ => none

end

def expressionOf? (tokens : List Token) : Option Expression :=
  match sum? (8 * tokens.length + 8) tokens with
  | some (expression, []) => some expression
  | _ => none

def parse (text : String) : Option Expression := expressionOf? (tokens text)

/-- What the operators mean. Numbers and divisions may be without a meaning. -/
structure Operations (α : Type) where
  number : ℚ → Option α
  neg : α → α
  add : α → α → α
  sub : α → α → α
  mul : α → α → α
  div : α → α → Option α

/-- Exact arithmetic; nothing is divided by zero. -/
def Operations.exact : Operations ℚ where
  number := some
  neg := Neg.neg
  add := (· + ·)
  sub := (· - ·)
  mul := (· * ·)
  div a b := if b = 0 then none else some (a / b)

inductive Value (α : Type) where
  | scalar (x : α)
  | vector (components : List α)
  deriving DecidableEq

namespace Value

variable {α : Type}

def scalar? : Value α → Option α
  | scalar x => some x
  | vector _ => none

def component? (field : String) : Value α → Option α
  | scalar _ => none
  | vector components => (["x", "y", "z"].idxOf? field).bind fun i => components[i]?

end Value

abbrev Store (α : Type) := String → Option (Value α)

def assign {α : Type} (names : List String) (values : List α) : Store α :=
  fun name => (List.lookup name (names.zip values)).map .scalar

def Expression.evaluate {α : Type} (operations : Operations α) (store : Store α) :
    Expression → Option α
  | number value => operations.number value
  | «variable» name => (store name).bind Value.scalar?
  | component name field => (store name).bind (Value.component? field)
  | negated operand => (operand.evaluate operations store).map operations.neg
  | sum left right => do
      let a ← left.evaluate operations store
      let b ← right.evaluate operations store
      return operations.add a b
  | difference left right => do
      let a ← left.evaluate operations store
      let b ← right.evaluate operations store
      return operations.sub a b
  | product left right => do
      let a ← left.evaluate operations store
      let b ← right.evaluate operations store
      return operations.mul a b
  | quotient left right => do
      let a ← left.evaluate operations store
      let b ← right.evaluate operations store
      operations.div a b

/-- The exact value of a text under an assignment. -/
def evaluate (store : Store ℚ) (text : String) : Option ℚ :=
  (parse text).bind (Expression.evaluate .exact store)

example : evaluate (assign ["p0", "p1"] [1, 5]) "-(1.0/2.0)*p0+3*(p1-p0)" = some (23 / 2) := by
  decide +kernel

theorem not_mem_of_isNameChar {word : List Char} (nameChars : ∀ c ∈ word, isNameChar c = true) :
    '.' ∉ word := by
  intro member
  have dot : isNameChar '.' = false := by decide +kernel
  rw [nameChars '.' member] at dot
  cases dot

theorem areDigits_identifier {name : String} (identifier : isIdentifier name = true) :
    areDigits name.toList = false := by
  obtain ⟨first, rest, chars, letter, -⟩ := isIdentifier_iff.mp identifier
  have notDigit : first.isDigit = false := by
    rw [Bool.eq_false_iff]
    intro digit
    rw [isAlphabetic_of_isDigit digit] at letter
    cases letter
  rw [chars, areDigits, List.all_cons, notDigit, Bool.false_and, Bool.and_false]

theorem atom?_identifier {name : String} (identifier : isIdentifier name = true) :
    atom? name.toList = some (.variable name) := by
  have plain := not_mem_of_isNameChar (isNameChar_of_mem_identifier identifier)
  simp only [atom?, List.splitOn_eq_singleton plain, areDigits_identifier identifier,
    String.ofList_toList, identifier, Bool.false_eq_true, if_false, if_true]

theorem atom?_component {name field : String} (identifier : isIdentifier name = true)
    (fieldIdentifier : isIdentifier field = true) :
    atom? (name.toList ++ '.' :: field.toList) = some (.component name field) := by
  have plain := not_mem_of_isNameChar (isNameChar_of_mem_identifier identifier)
  have fieldPlain := not_mem_of_isNameChar (isNameChar_of_mem_identifier fieldIdentifier)
  simp only [atom?, List.splitOn_append_cons_self_of_not_mem plain,
    List.splitOn_eq_singleton fieldPlain, areDigits_identifier identifier, String.ofList_toList,
    identifier, fieldIdentifier, Bool.false_and, Bool.and_self, Bool.false_eq_true, if_false,
    if_true]

theorem isNameChar_of_isDigit {c : Char} (digit : c.isDigit = true) : isNameChar c = true := by
  simp [isNameChar, digit]

theorem areDigits_toDigits (n : Nat) : areDigits (Nat.toDigits 10 n) = true := by
  have digits : (Nat.toDigits 10 n).all Char.isDigit = true :=
    List.all_eq_true.mpr fun _ => Nat.isDigit_of_mem_toDigits (by decide) (by decide)
  rw [areDigits, digits, Bool.and_true, Bool.not_eq_true', List.isEmpty_eq_false_iff]
  exact Nat.toDigits_ne_nil

theorem isNameChar_of_mem_toDigits {n : Nat} : ∀ c ∈ Nat.toDigits 10 n, isNameChar c = true :=
  fun _ member => isNameChar_of_isDigit (Nat.isDigit_of_mem_toDigits (by decide) (by decide) member)

theorem atom?_whole (n : Nat) : atom? (Nat.toDigits 10 n) = some (.number n) := by
  simp only [atom?, List.splitOn_eq_singleton (not_mem_of_isNameChar isNameChar_of_mem_toDigits),
    areDigits_toDigits, if_true, digitsValue, Nat.ofDigitChars_ten_toDigits]

/-- A whole number with a decimal point and a zero keeps its value. -/
theorem atom?_decimal (n : Nat) : atom? (Nat.toDigits 10 n ++ ['.', '0']) = some (.number n) := by
  have split : (Nat.toDigits 10 n ++ ['.', '0']).splitOn '.' = [Nat.toDigits 10 n, ['0']] := by
    rw [List.splitOn_append_cons_self_of_not_mem
      (not_mem_of_isNameChar isNameChar_of_mem_toDigits), List.splitOn_eq_singleton (by decide)]
  have value : digitsValue (Nat.toDigits 10 n ++ ['0']) = 10 * n := by
    rw [digitsValue, Nat.ofDigitChars_append, Nat.ofDigitChars_ten_toDigits]
    simp [Nat.ofDigitChars_cons]
  have zero : areDigits ['0'] = true := by decide
  simp only [atom?, split, areDigits_toDigits, zero, Bool.and_self, if_true, value]
  congr 2
  push_cast
  norm_num

end CurveForge.Reading
