/-!
# Scanning JSON

Reading goes from left to right and stops at the first problem. A problem is
either text that is no JSON, an end of the text inside a value, or a value of
another shape than the reader wants.

A number is read whole before its shape is judged. One that is written with a
fraction or an exponent, or that is too long for a word, is only measured: it is
refused as text when it is too large for a double and is inexact otherwise.
-/

namespace CurveForge.Json

inductive Rejection where
  | malformed
  | cutShort
  | mismatch
  deriving DecidableEq, Repr

def isBlank (c : Char) : Bool := c = ' ' || c = '\n' || c = '\t' || c = '\r'

def skipBlanks (text : List Char) : List Char := text.dropWhile isBlank

def digitValue (c : Char) : Nat := c.toNat - '0'.toNat

def hexValue? (c : Char) : Option Nat :=
  if '0' ≤ c && c ≤ '9' then some (c.toNat - '0'.toNat)
  else if 'a' ≤ c && c ≤ 'f' then some (c.toNat - 'a'.toNat + 10)
  else if 'A' ≤ c && c ≤ 'F' then some (c.toNat - 'A'.toNat + 10)
  else none

def readLetters : List Char → List Char → Except Rejection (List Char)
  | [], text => .ok text
  | _ :: _, [] => .error .cutShort
  | letter :: letters, c :: text =>
      if c = letter then readLetters letters text else .error .malformed

/-- The significant digits that fit a word, and the power of ten that scales them. -/
structure Magnitude where
  significand : Nat
  exponent : Int
  deriving DecidableEq, Repr

namespace Magnitude

def isFull (m : Magnitude) (digit : Nat) : Bool := UInt64.size ≤ m.significand * 10 + digit

/-- Appends digits before the decimal point; those that no longer fit raise the exponent. -/
def pushWhole (m : Magnitude) : List Char → Magnitude
  | [] => m
  | c :: rest =>
      if m.isFull (digitValue c) then ⟨m.significand, m.exponent + (rest.length + 1)⟩
      else pushWhole ⟨m.significand * 10 + digitValue c, m.exponent⟩ rest

/-- Appends digits after the decimal point; those that no longer fit are dropped. -/
def pushPlaces (m : Magnitude) : List Char → Magnitude
  | [] => m
  | c :: rest =>
      if m.isFull (digitValue c) then m
      else pushPlaces ⟨m.significand * 10 + digitValue c, m.exponent - 1⟩ rest

/-- Whether the nearest double is infinite. The double of a word alone never is. -/
def isInfinite (m : Magnitude) : Bool :=
  m.significand ≠ 0 && 0 < m.exponent &&
    (308 < m.exponent ||
      (m.significand.toUInt64.toFloat * Float.ofScientific 1 false m.exponent.toNat).isInf)

end Magnitude

/-- A number as far as its shape matters. -/
inductive Number where
  | natural (value : Nat)
  | negative (value : Nat)
  | inexact
  deriving DecidableEq, Repr

def digitsValue (digits : List Char) : Nat :=
  digits.foldl (fun value c => value * 10 + digitValue c) 0

def spanDigits (text : List Char) : List Char × List Char :=
  (text.takeWhile Char.isDigit, text.dropWhile Char.isDigit)

/-- Reads the digits of a number before its decimal point; only zero itself starts with zero. -/
def readWhole (text : List Char) : Except Rejection (List Char × List Char) :=
  match text with
  | [] => .error .cutShort
  | c :: rest =>
      if c = '0' then
        match rest with
        | next :: _ => if next.isDigit then .error .malformed else .ok (['0'], rest)
        | [] => .ok (['0'], rest)
      else if c.isDigit then .ok (spanDigits text)
      else .error .malformed

def readExponent (m : Magnitude) (text : List Char) : Except Rejection (Number × List Char) :=
  let (falling, rest) : Bool × List Char :=
    match text with
    | '+' :: rest => (false, rest)
    | '-' :: rest => (true, rest)
    | _ => (false, text)
  match rest with
  | [] => .error .cutShort
  | c :: _ =>
      if c.isDigit then
        let (digits, rest) := spanDigits rest
        let power : Int := digitsValue digits
        let scaled : Magnitude :=
          ⟨m.significand, if falling then m.exponent - power else m.exponent + power⟩
        if scaled.isInfinite then .error .malformed else .ok (.inexact, rest)
      else .error .malformed

def readScale (m : Magnitude) (text : List Char) : Except Rejection (Number × List Char) :=
  match text with
  | 'e' :: rest => readExponent m rest
  | 'E' :: rest => readExponent m rest
  | _ => if m.isInfinite then .error .malformed else .ok (.inexact, text)

def readPlaces (m : Magnitude) (text : List Char) : Except Rejection (Number × List Char) :=
  match text with
  | [] => .error .cutShort
  | c :: _ =>
      if c.isDigit then
        let (places, rest) := spanDigits text
        readScale (m.pushPlaces places) rest
      else .error .malformed

/-- The magnitude of the least word with a sign: a one and 63 zeros in binary. -/
def signLimit : Nat := 0x8000000000000000

/-- The number without fraction and exponent; minus zero and too long ones are inexact. -/
def exactNumber (isNegative : Bool) (value : Nat) : Number :=
  if isNegative then
    if 0 < value && value ≤ signLimit then .negative value else .inexact
  else if value < UInt64.size then .natural value else .inexact

def readUnsigned (isNegative : Bool) (text : List Char) : Except Rejection (Number × List Char) := do
  let (digits, rest) ← readWhole text
  let m := Magnitude.pushWhole ⟨0, 0⟩ digits
  match rest with
  | '.' :: rest => readPlaces m rest
  | 'e' :: rest => readExponent m rest
  | 'E' :: rest => readExponent m rest
  | _ => if m.isInfinite then .error .malformed else .ok (exactNumber isNegative (digitsValue digits), rest)

def readNumber (text : List Char) : Except Rejection (Number × List Char) :=
  match text with
  | '-' :: rest => readUnsigned true rest
  | _ => readUnsigned false text

/-- Reads four hexadecimal digits. Fewer than four remaining bytes count as a text that ends too
early. -/
def readHex (text : List Char) : Except Rejection (Nat × List Char) :=
  match text with
  | a :: b :: c :: d :: rest =>
      match hexValue? a, hexValue? b, hexValue? c, hexValue? d with
      | some a, some b, some c, some d => .ok (((a * 16 + b) * 16 + c) * 16 + d, rest)
      | _, _, _, _ => .error .malformed
  | short =>
      if (String.ofList short).utf8ByteSize < 4 then .error .cutShort else .error .malformed

def readTrailingSurrogate (leading : Nat) (text : List Char) : Except Rejection (Char × List Char) :=
  match text with
  | [] => .error .cutShort
  | '\\' :: [] => .error .cutShort
  | '\\' :: 'u' :: rest => do
      let (trailing, rest) ← readHex rest
      if 0xdc00 ≤ trailing && trailing ≤ 0xdfff then
        return (Char.ofNat (0x10000 + (leading - 0xd800) * 0x400 + (trailing - 0xdc00)), rest)
      else throw .malformed
  | _ => .error .malformed

def readCode (text : List Char) : Except Rejection (Char × List Char) := do
  let (code, rest) ← readHex text
  if 0xdc00 ≤ code && code ≤ 0xdfff then throw .malformed
  else if 0xd800 ≤ code && code ≤ 0xdbff then readTrailingSurrogate code rest
  else return (Char.ofNat code, rest)

def shortEscape? (c : Char) : Option Char :=
  if c = '"' then some '"'
  else if c = '\\' then some '\\'
  else if c = '/' then some '/'
  else if c = 'b' then some '\x08'
  else if c = 'f' then some '\x0c'
  else if c = 'n' then some '\n'
  else if c = 'r' then some '\r'
  else if c = 't' then some '\t'
  else none

def readEscape (text : List Char) : Except Rejection (Char × List Char) :=
  match text with
  | [] => .error .cutShort
  | 'u' :: rest => readCode rest
  | c :: rest =>
      match shortEscape? c with
      | some value => .ok (value, rest)
      | none => .error .malformed

def readQuotedWithin : Nat → List Char → Except Rejection (List Char × List Char)
  | _, [] => .error .cutShort
  | 0, _ => .error .cutShort
  | fuel + 1, c :: rest =>
      if c = '"' then .ok ([], rest)
      else if c = '\\' then do
        let (value, rest) ← readEscape rest
        let (values, rest) ← readQuotedWithin fuel rest
        return (value :: values, rest)
      else if c.toNat < 0x20 then .error .malformed
      else do
        let (values, rest) ← readQuotedWithin fuel rest
        return (c :: values, rest)

def readQuoted (text : List Char) : Except Rejection (String × List Char) := do
  let (values, rest) ← readQuotedWithin (text.length + 1) text
  return (String.ofList values, rest)

end CurveForge.Json
