import Mathlib
import CurveForge.Text.Classes

/-!
# Tokens of emitted text

Emitted text is read back in two steps, of which this is the first. A word is a
longest run of letters, digits, underscores and dots, so that a decimal number
and the path of a component are one word each. Blanks only separate, and every
other character is a token of its own.
-/

namespace CurveForge.Reading

/-- A word, or a character that stands for itself. -/
inductive Token where
  | word (text : List Char)
  | symbol (c : Char)
  deriving DecidableEq, Repr

def isNameChar (c : Char) : Bool := Text.isAlphabetic c || c.isDigit || c == '_'

def isWordChar (c : Char) : Bool := isNameChar c || c == '.'

def isIdentifier (name : String) : Bool :=
  match name.toList with
  | [] => false
  | first :: rest => Text.isAlphabetic first && rest.all isNameChar

def flush : List Char → List Token
  | [] => []
  | word => [.word word]

/-- The tokens of a text behind the beginning of a word. -/
def scan (word : List Char) : List Char → List Token
  | [] => flush word
  | c :: rest =>
      if isWordChar c then scan (word ++ [c]) rest
      else if c = ' ' then flush word ++ scan [] rest
      else flush word ++ .symbol c :: scan [] rest

def tokens (text : String) : List Token := scan [] text.toList

/-- No character before the capital letters, or between them and the small ones, is alphabetic. -/
theorem isAlphabetic_of_gap {c : Char} (gap : c.toNat < 65 ∨ 90 < c.toNat ∧ c.toNat < 97) :
    Text.isAlphabetic c = false := by
  have runs : ∀ run ∈ Text.alphabeticRuns, 65 ≤ run.first ∧ (run.last ≤ 90 ∨ 97 ≤ run.first) := by
    decide +kernel
  unfold Text.isAlphabetic Text.inRuns
  rw [List.any_eq_false]
  intro run member contained
  unfold Text.Run.contains at contained
  simp only [Bool.and_eq_true, decide_eq_true_eq] at contained
  have := runs run member
  omega

theorem isAlphabetic_of_isAlpha {c : Char} (letter : c.isAlpha = true) :
    Text.isAlphabetic c = true := by
  have capitals : (⟨0x41, 0x5a, 1⟩ : Text.Run) ∈ Text.alphabeticRuns := by decide
  have smalls : (⟨0x61, 0x7a, 1⟩ : Text.Run) ∈ Text.alphabeticRuns := by decide
  have inside {first last : Nat} (atLeast : first ≤ c.toNat) (atMost : c.toNat ≤ last) :
      (⟨first, last, 1⟩ : Text.Run).contains c.toNat = true := by
    simp [Text.Run.contains, atLeast, atMost, Nat.mod_one]
  unfold Text.isAlphabetic Text.inRuns
  rw [List.any_eq_true]
  simp only [Char.isAlpha, Char.isUpper, Char.isLower, Bool.or_eq_true, Bool.and_eq_true,
    decide_eq_true_eq] at letter
  rcases letter with ⟨atLeast, atMost⟩ | ⟨atLeast, atMost⟩
  · exact ⟨_, capitals, inside atLeast atMost⟩
  · exact ⟨_, smalls, inside atLeast atMost⟩

theorem isAlphabetic_of_isDigit {c : Char} (digit : c.isDigit = true) :
    Text.isAlphabetic c = false := by
  refine isAlphabetic_of_gap (.inl ?_)
  have upper : c.toNat ≤ 57 := (Char.isDigit_iff_toNat.mp digit).2
  omega

theorem isWordChar_of_isNameChar {c : Char} (name : isNameChar c = true) : isWordChar c = true := by
  simp [isWordChar, name]

theorem isWordChar_of_isDigit {c : Char} (digit : c.isDigit = true) : isWordChar c = true := by
  simp [isWordChar, isNameChar, digit]

theorem isWordChar_dot : isWordChar '.' = true := by simp [isWordChar]

def punctuation : List Char :=
  ['(', ')', '[', ']', '+', '-', '*', '/', '=', ':', ';', ',', '<', '>']

def separators : List Char := ' ' :: punctuation

theorem isWordChar_separator {c : Char} (member : c ∈ separators) : isWordChar c = false := by
  have gaps : separators.all
      (fun c => c.toNat < 65 || (90 < c.toNat && c.toNat < 97)) = true := rfl
  have others : separators.all (fun c => !(c.isDigit || c == '_' || c == '.')) = true := rfl
  have gap : c.toNat < 65 ∨ 90 < c.toNat ∧ c.toNat < 97 := by
    simpa using List.all_eq_true.mp gaps c member
  have other := List.all_eq_true.mp others c member
  rw [Bool.not_eq_true', Bool.or_eq_false_iff] at other
  rw [isWordChar, isNameChar, isAlphabetic_of_gap gap, Bool.false_or, other.1, other.2,
    Bool.or_false]

theorem isWordChar_punctuation {c : Char} (member : c ∈ punctuation) : isWordChar c = false :=
  isWordChar_separator (List.mem_cons_of_mem ' ' member)

/-- A text that does not go on with a word. -/
def Breaks : List Char → Prop
  | [] => True
  | c :: _ => isWordChar c = false

theorem breaks_punctuation {c : Char} (rest : List Char) (member : c ∈ punctuation) :
    Breaks (c :: rest) :=
  isWordChar_punctuation member

theorem scan_breaks {word rest : List Char} (breaks : Breaks rest) :
    scan word rest = flush word ++ scan [] rest := by
  cases rest with
  | nil => cases word <;> rfl
  | cons c rest =>
      have notWord : isWordChar c = false := breaks
      simp only [scan, notWord, Bool.false_eq_true, if_false]
      split <;> rfl

theorem scan_append {word more rest : List Char} (wordChars : ∀ c ∈ more, isWordChar c = true) :
    scan word (more ++ rest) = scan (word ++ more) rest := by
  induction more generalizing word with
  | nil => simp
  | cons c more ih =>
      have first : isWordChar c = true := wordChars c List.mem_cons_self
      rw [List.cons_append, scan, if_pos first,
        ih fun other member => wordChars other (List.mem_cons_of_mem _ member),
        List.append_assoc, List.singleton_append]

/-- A word that does not go on is one token. -/
theorem scan_word {word rest : List Char} (nonempty : word ≠ [])
    (wordChars : ∀ c ∈ word, isWordChar c = true) (breaks : Breaks rest) :
    scan [] (word ++ rest) = .word word :: scan [] rest := by
  rw [scan_append wordChars, List.nil_append, scan_breaks breaks]
  cases word with
  | nil => exact absurd rfl nonempty
  | cons c more => rfl

theorem scan_punctuation {c : Char} (rest : List Char) (member : c ∈ punctuation) :
    scan [] (c :: rest) = .symbol c :: scan [] rest := by
  have notBlank : c ≠ ' ' := by
    rintro rfl
    exact absurd member (by decide)
  rw [scan, if_neg (by rw [isWordChar_punctuation member]; decide), if_neg notBlank]
  rfl

theorem scan_blank {rest : List Char} : scan [] (' ' :: rest) = scan [] rest := by
  have notWord : isWordChar ' ' = false := isWordChar_separator List.mem_cons_self
  rw [scan, if_neg (by rw [notWord]; decide), if_pos rfl]
  rfl

theorem isIdentifier_iff {name : String} : isIdentifier name = true ↔
    ∃ first rest, name.toList = first :: rest ∧ Text.isAlphabetic first = true ∧
      ∀ c ∈ rest, isNameChar c = true := by
  unfold isIdentifier
  cases name.toList with
  | nil => simp
  | cons first rest => simp

theorem isNameChar_of_mem_identifier {name : String} (identifier : isIdentifier name = true) :
    ∀ c ∈ name.toList, isNameChar c = true := by
  obtain ⟨first, rest, chars, letter, others⟩ := isIdentifier_iff.mp identifier
  rw [chars]
  intro c member
  rcases List.mem_cons.mp member with rfl | member
  · simp [isNameChar, letter]
  · exact others c member

structure IsWord (text : String) : Prop where
  nonempty : text.toList ≠ []
  wordChars : ∀ c ∈ text.toList, isWordChar c = true

theorem IsWord.of_identifier {name : String} (identifier : isIdentifier name = true) :
    IsWord name := by
  obtain ⟨first, others, chars, -⟩ := isIdentifier_iff.mp identifier
  constructor
  · rw [chars]
    exact List.cons_ne_nil _ _
  · intro c member
    exact isWordChar_of_isNameChar (isNameChar_of_mem_identifier identifier c member)

/-- An identifier that does not go on is one token. -/
theorem scan_identifier {name : String} {rest : List Char} (identifier : isIdentifier name = true)
    (breaks : Breaks rest) : scan [] (name.toList ++ rest) = .word name.toList :: scan [] rest := by
  have word := IsWord.of_identifier identifier
  exact scan_word word.nonempty word.wordChars breaks

def startsApart (text : String) : Bool := text.toList.head?.all fun c => c ∈ separators

def endsApart (text : String) : Bool := text.toList.getLast?.all fun c => c ∈ separators

/-- The induction is on the characters before the gap, with a word begun; at the gap no word goes
on. -/
theorem scan_append_apart {word before after : List Char}
    (apart : Breaks after ∨ (∃ c, before.getLast? = some c ∧ isWordChar c = false) ∨
      (word = [] ∧ before = [])) :
    scan word (before ++ after) = scan word before ++ scan [] after := by
  induction before generalizing word with
  | nil =>
      rcases apart with breaks | ⟨c, last, -⟩ | ⟨rfl, -⟩
      · exact scan_breaks breaks
      · cases last
      · rfl
  | cons c rest ih =>
      rw [List.cons_append]
      cases wordChar : isWordChar c with
      | true =>
          rw [scan, scan, if_pos wordChar, if_pos wordChar]
          refine ih ?_
          rcases apart with breaks | ⟨d, last, notWord⟩ | ⟨-, none⟩
          · exact .inl breaks
          · cases rest with
            | nil =>
                cases last
                cases wordChar.symm.trans notWord
            | cons e more => exact .inr (.inl ⟨d, last, notWord⟩)
          · cases none
      | false =>
          have inner : scan [] (rest ++ after) = scan [] rest ++ scan [] after := by
            refine ih ?_
            rcases apart with breaks | ⟨d, last, notWord⟩ | ⟨-, none⟩
            · exact .inl breaks
            · cases rest with
              | nil => exact .inr (.inr ⟨rfl, rfl⟩)
              | cons e more => exact .inr (.inl ⟨d, last, notWord⟩)
            · cases none
          simp only [scan, wordChar, Bool.false_eq_true, if_false, inner]
          split <;> simp

/-- Tokens do not cross a gap between words. -/
theorem tokens_append {before after : String}
    (apart : endsApart before = true ∨ startsApart after = true) :
    tokens (before ++ after) = tokens before ++ tokens after := by
  rw [tokens, String.toList_append]
  refine scan_append_apart ?_
  rcases apart with ends | starts
  · unfold endsApart at ends
    cases last : before.toList.getLast? with
    | none => exact .inr (.inr ⟨rfl, List.getLast?_eq_none_iff.mp last⟩)
    | some c =>
        rw [last, Option.all_some, decide_eq_true_eq] at ends
        exact .inr (.inl ⟨c, rfl, isWordChar_separator ends⟩)
  · unfold startsApart at starts
    refine .inl ?_
    cases chars : after.toList with
    | nil => trivial
    | cons c rest =>
        rw [chars, List.head?_cons, Option.all_some, decide_eq_true_eq] at starts
        exact isWordChar_separator starts

theorem startsApart_append {piece : String} (rest : String)
    (starts : (piece.toList.head?.any fun c => c ∈ separators) = true) :
    startsApart (piece ++ rest) = true := by
  unfold startsApart
  cases first : piece.toList.head? with
  | none =>
      rw [first] at starts
      cases starts
  | some c =>
      rw [first] at starts
      rw [String.toList_append, List.head?_append, first]
      exact starts

/-- The letters, digits and dots of plain texts. -/
def isPlain (c : Char) : Bool := c.isAlphanum || c == '.'

theorem isWordChar_of_isPlain {c : Char} (plain : isPlain c = true) : isWordChar c = true := by
  unfold isPlain Char.isAlphanum at plain
  simp only [Bool.or_eq_true, beq_iff_eq] at plain
  rcases plain with (letter | digit) | rfl
  · simp [isWordChar, isNameChar, isAlphabetic_of_isAlpha letter]
  · exact isWordChar_of_isDigit digit
  · exact isWordChar_dot

/-- The tokens of plain characters and separators, behind the beginning of a word. No table of
letters is needed for them. -/
def scanPlain? (word : List Char) : List Char → Option (List Token)
  | [] => some (flush word)
  | c :: rest =>
      if isPlain c then scanPlain? (word ++ [c]) rest
      else if c ∈ separators then
        (scanPlain? [] rest).map fun later =>
          if c = ' ' then flush word ++ later else flush word ++ .symbol c :: later
      else none

theorem scan_of_plain {word text : List Char} {found : List Token}
    (plain : scanPlain? word text = some found) : scan word text = found := by
  induction text generalizing word found with
  | nil => exact Option.some.inj plain
  | cons c rest ih =>
      rw [scanPlain?] at plain
      split at plain
      next letter => rw [scan, if_pos (isWordChar_of_isPlain letter), ih plain]
      next =>
        split at plain
        next separator =>
          obtain ⟨later, scanned, rfl⟩ := Option.map_eq_some_iff.mp plain
          simp only [scan, isWordChar_separator separator, Bool.false_eq_true, if_false, ih scanned]
        next => cases plain

theorem tokens_plain {text : String} {found : List Token}
    (plain : scanPlain? [] text.toList = some found) : tokens text = found :=
  scan_of_plain plain

/-- The path of a component is one word. -/
theorem IsWord.component {name field : String} (word : IsWord name) (fieldWord : IsWord field) :
    IsWord (name ++ "." ++ field) := by
  refine ⟨by simp [word.nonempty], ?_⟩
  intro c member
  simp only [String.toList_append, List.mem_append] at member
  rcases member with (member | member) | member
  · exact word.wordChars c member
  · rw [List.mem_singleton.mp member]
    exact isWordChar_dot
  · exact fieldWord.wordChars c member

theorem tokens_word {word : String} (isWord : IsWord word) : tokens word = [.word word.toList] := by
  have scanned := scan_word isWord.nonempty isWord.wordChars (show Breaks [] from trivial)
  rwa [List.append_nil] at scanned

theorem tokens_word_append {word rest : String} (isWord : IsWord word)
    (starts : startsApart rest = true) :
    tokens (word ++ rest) = .word word.toList :: tokens rest := by
  rw [tokens_append (.inr starts), tokens_word isWord, List.singleton_append]

end CurveForge.Reading
