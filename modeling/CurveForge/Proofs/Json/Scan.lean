import Mathlib
import CurveForge.Json.Record
import CurveForge.Json.Scan
import CurveForge.Proofs.Text

/-!
# Written scalars are read back

A quoted text and the digits of a number can be read back from the front of every
text in which they stand. A quoted text ends at its own closing quote; a number
ends where no digit, no point and no exponent follows.
-/

namespace CurveForge.Json

def IsBlankText (text : List Char) : Prop := ∀ c ∈ text, isBlank c = true

theorem skipBlanks_append {blanks : List Char} (blank : IsBlankText blanks) (rest : List Char) :
    skipBlanks (blanks ++ rest) = skipBlanks rest :=
  List.dropWhile_append_of_pos blank

theorem skipBlanks_cons {c : Char} (solid : isBlank c = false) (rest : List Char) :
    skipBlanks (c :: rest) = c :: rest :=
  List.dropWhile_cons_of_neg (by simp [solid])

theorem hexValue?_hexDigit (n : Nat) : hexValue? (hexDigit n) = some (n % 16) := by
  have digits : ∀ k : Fin 16, hexValue? (Nat.digitChar k) = some k.val := by decide
  exact digits ⟨n % 16, Nat.mod_lt n (by decide)⟩

/-- Two hexadecimal digits behind two zeros are a code of one byte. -/
theorem readHex_byte {n : Nat} (byte : n < 256) (rest : List Char) :
    readHex ('0' :: '0' :: hexDigit (n / 16) :: hexDigit n :: rest) = .ok (n, rest) := by
  have zero : hexValue? '0' = some 0 := rfl
  have same : ((0 * 16 + 0) * 16 + n / 16 % 16) * 16 + n % 16 = n := by omega
  simp only [readHex, zero, hexValue?_hexDigit, same]

theorem readCode_byte {c : Char} (byte : c.toNat < 256) (rest : List Char) :
    readCode ('0' :: '0' :: hexDigit (c.toNat / 16) :: hexDigit c.toNat :: rest) = .ok (c, rest) := by
  have low : ¬0xdc00 ≤ c.toNat := by omega
  have high : ¬0xd800 ≤ c.toNat := by omega
  simp [readCode, readHex_byte byte, low, high, bind, Except.bind, pure, Except.pure]

/-- A character is written as an escape that stands for it, or as itself where it needs none. -/
theorem escape_cases (c : Char) :
    (∃ body, escape c = '\\' :: body ∧ ∀ rest, readEscape (body ++ rest) = .ok (c, rest)) ∨
      escape c = [c] ∧ c ≠ '"' ∧ c ≠ '\\' ∧ ¬c.toNat < 0x20 := by
  unfold escape
  split
  next quote => exact .inl ⟨['"'], rfl, fun rest => by rw [quote]; rfl⟩
  split
  next backslash => exact .inl ⟨['\\'], rfl, fun rest => by rw [backslash]; rfl⟩
  split
  next code => exact .inl ⟨['b'], rfl, fun rest => by rw [code]; rfl⟩
  split
  next code => exact .inl ⟨['f'], rfl, fun rest => by rw [code]; rfl⟩
  split
  next code => exact .inl ⟨['n'], rfl, fun rest => by rw [code]; rfl⟩
  split
  next code => exact .inl ⟨['r'], rfl, fun rest => by rw [code]; rfl⟩
  split
  next code => exact .inl ⟨['t'], rfl, fun rest => by rw [code]; rfl⟩
  split
  next control => exact .inl ⟨_, rfl, fun rest => readCode_byte (by omega) rest⟩
  next quote backslash _ _ _ _ _ printable => exact .inr ⟨rfl, quote, backslash, printable⟩

/-- The written form of a character is read as that character. -/
theorem readQuotedWithin_escape {fuel : Nat} {values text rest : List Char}
    (read : readQuotedWithin fuel text = .ok (values, rest)) (c : Char) :
    readQuotedWithin (fuel + 1) (escape c ++ text) = .ok (c :: values, rest) := by
  rcases escape_cases c with ⟨body, written, escaped⟩ | ⟨written, quote, backslash, printable⟩
  · have marked : ('\\' : Char) ≠ '"' := by decide
    simp [written, readQuotedWithin, marked, escaped, read, bind, Except.bind, pure, Except.pure]
  · simp [written, readQuotedWithin, quote, backslash, printable, read, bind, Except.bind, pure,
      Except.pure]

/-- Each character takes one unit of fuel, however long its escape is. -/
theorem readQuotedWithin_escapes {fuel : Nat} (characters rest : List Char)
    (enough : characters.length < fuel) :
    readQuotedWithin fuel (characters.flatMap escape ++ '"' :: rest) = .ok (characters, rest) := by
  induction characters generalizing fuel with
  | nil =>
      obtain ⟨fuel, rfl⟩ := Nat.exists_eq_add_one_of_ne_zero (Nat.ne_of_gt enough)
      simp [readQuotedWithin]
  | cons c characters ih =>
      obtain ⟨fuel, rfl⟩ := Nat.exists_eq_add_one_of_ne_zero (Nat.ne_zero_of_lt enough)
      rw [List.flatMap_cons, List.append_assoc]
      exact readQuotedWithin_escape (ih (Nat.lt_of_succ_lt_succ enough)) c

theorem length_le_flatMap_escape (characters : List Char) :
    characters.length ≤ (characters.flatMap escape).length := by
  induction characters with
  | nil => exact Nat.le_refl _
  | cons c characters ih =>
      have written : 1 ≤ (escape c).length := by
        rcases escape_cases c with ⟨body, written, -⟩ | ⟨written, -⟩ <;> simp [written]
      rw [List.flatMap_cons, List.length_append, List.length_cons]
      omega

/-- A text is read back from its quoted form. -/
theorem readQuoted_written (text : String) (rest : List Char) :
    readQuoted (text.toList.flatMap escape ++ '"' :: rest) = .ok (text, rest) := by
  have short := length_le_flatMap_escape text.toList
  have enough : text.toList.length <
      (text.toList.flatMap escape ++ '"' :: rest).length + 1 := by
    rw [List.length_append]
    omega
  rw [readQuoted, readQuotedWithin_escapes _ _ enough]
  simp [bind, Except.bind, pure, Except.pure]

theorem toList_quote (text : String) :
    (quote text).toList = '"' :: (text.toList.flatMap escape ++ ['"']) := by
  simp [quote]

/-- The text does not continue a number that stands in front of it. -/
def EndsNumber (rest : List Char) : Prop :=
  ∀ c ∈ rest.head?, c.isDigit = false ∧ c ≠ '.' ∧ c ≠ 'e' ∧ c ≠ 'E'

theorem digitsValue_toDigits (n : Nat) : digitsValue (Nat.toDigits 10 n) = n := by
  have same : digitsValue (Nat.toDigits 10 n) = Nat.ofDigitChars 10 (Nat.toDigits 10 n) 0 := by
    simp only [digitsValue, Nat.ofDigitChars, digitValue, Nat.mul_comm]
  rw [same, Nat.ofDigitChars_ten_toDigits]

theorem spanDigits_append {digits rest : List Char} (each : ∀ c ∈ digits, c.isDigit = true)
    (ends : EndsNumber rest) : spanDigits (digits ++ rest) = (digits, rest) := by
  have stop : rest.takeWhile Char.isDigit = [] ∧ rest.dropWhile Char.isDigit = rest := by
    cases rest with
    | nil => exact ⟨rfl, rfl⟩
    | cons c rest =>
        have other := (ends c rfl).1
        simp [other]
  rw [spanDigits, List.takeWhile_append_of_pos each, List.dropWhile_append_of_pos each, stop.1,
    stop.2, List.append_nil]

theorem readWhole_toDigits (n : Nat) {rest : List Char} (ends : EndsNumber rest) :
    readWhole (Nat.toDigits 10 n ++ rest) = .ok (Nat.toDigits 10 n, rest) := by
  rcases Nat.eq_zero_or_pos n with rfl | positive
  · rw [Nat.toDigits_zero]
    cases rest with
    | nil => rfl
    | cons c rest => simp [readWhole, (ends c rfl).1]
  · have each : ∀ c ∈ Nat.toDigits 10 n, c.isDigit = true :=
      fun _ => Nat.isDigit_of_mem_toDigits (by decide) (by decide)
    have span := spanDigits_append each ends
    have front := Text.head?_toDigits_ne_zero positive
    cases spelled : Nat.toDigits 10 n with
    | nil => exact absurd spelled Nat.toDigits_ne_nil
    | cons c digits =>
        rw [spelled] at span front
        have digit : c.isDigit = true := each c (spelled ▸ List.mem_cons_self)
        have other : c ≠ '0' := fun zero => front (congrArg some zero)
        simp only [List.cons_append] at span ⊢
        simp [readWhole, other, digit, span]

/-- The digits of a word raise no exponent. The induction is on the digits; the significand so far
is at most the value of all of them. -/
theorem pushWhole_of_lt {digits : List Char} {front : Nat}
    (small : digits.foldl (fun value c => value * 10 + digitValue c) front < UInt64.size) :
    Magnitude.pushWhole ⟨front, 0⟩ digits =
      ⟨digits.foldl (fun value c => value * 10 + digitValue c) front, 0⟩ := by
  induction digits generalizing front with
  | nil => rfl
  | cons c digits ih =>
      have grows (later : List Char) (start : Nat) :
          start ≤ later.foldl (fun value c => value * 10 + digitValue c) start := by
        induction later generalizing start with
        | nil => exact Nat.le_refl _
        | cons d later ih => exact Nat.le_trans (by omega) (ih (start * 10 + digitValue d))
      have fits : ¬UInt64.size ≤ front * 10 + digitValue c :=
        Nat.not_le.mpr (Nat.lt_of_le_of_lt (grows digits _) small)
      rw [Magnitude.pushWhole, Magnitude.isFull, decide_eq_false fits]
      exact ih small

/-- The digits of a word are read as that word. -/
theorem readUnsigned_toDigits (isNegative : Bool) {n : Nat} (small : n < UInt64.size)
    {rest : List Char} (ends : EndsNumber rest) :
    readUnsigned isNegative (Nat.toDigits 10 n ++ rest) = .ok (exactNumber isNegative n, rest) := by
  have value := digitsValue_toDigits n
  have magnitude : Magnitude.pushWhole ⟨0, 0⟩ (Nat.toDigits 10 n) = ⟨n, 0⟩ := by
    rw [← value] at small
    rw [pushWhole_of_lt small]
    exact congrArg (Magnitude.mk · 0) value
  have finite : Magnitude.isInfinite ⟨n, 0⟩ = false := by simp [Magnitude.isInfinite]
  rw [readUnsigned, readWhole_toDigits n ends]
  simp only [bind, Except.bind, magnitude, value]
  cases rest with
  | nil => simp [finite]
  | cons c rest =>
      obtain ⟨-, point, lower, upper⟩ := ends c rfl
      split
      next same => exact absurd (List.cons.inj same).1 point
      next same => exact absurd (List.cons.inj same).1 lower
      next same => exact absurd (List.cons.inj same).1 upper
      next => simp [finite]

end CurveForge.Json
