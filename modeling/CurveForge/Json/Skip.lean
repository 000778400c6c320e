import CurveForge.Json.Scan

/-!
# Skipping JSON values

The value of a name that no reader asks for is passed over. Its shape is checked
on the way, but numbers are not measured and surrogates need no partner, and a
number that ends too early is malformed.
-/

namespace CurveForge.Json

def skipEscape (text : List Char) : Except Rejection (List Char) :=
  match text with
  | [] => .error .cutShort
  | 'u' :: rest => do
      let (_, rest) ← readHex rest
      return rest
  | c :: rest => if (shortEscape? c).isSome then .ok rest else .error .malformed

def skipQuotedWithin : Nat → List Char → Except Rejection (List Char)
  | _, [] => .error .cutShort
  | 0, _ => .error .cutShort
  | fuel + 1, c :: rest =>
      if c = '"' then .ok rest
      else if c = '\\' then do
        let rest ← skipEscape rest
        skipQuotedWithin fuel rest
      else if c.toNat < 0x20 then .error .malformed
      else skipQuotedWithin fuel rest

def skipQuoted (text : List Char) : Except Rejection (List Char) :=
  skipQuotedWithin (text.length + 1) text

def skipDigits (text : List Char) : Except Rejection (List Char) :=
  match text with
  | [] => .error .malformed
  | c :: rest => if c.isDigit then .ok (rest.dropWhile Char.isDigit) else .error .malformed

def skipExponent (text : List Char) : Except Rejection (List Char) :=
  match text with
  | '+' :: rest => skipDigits rest
  | '-' :: rest => skipDigits rest
  | _ => skipDigits text

def skipScale (text : List Char) : Except Rejection (List Char) :=
  match text with
  | 'e' :: rest => skipExponent rest
  | 'E' :: rest => skipExponent rest
  | _ => .ok text

def skipNumber (text : List Char) : Except Rejection (List Char) :=
  match readWhole text with
  | .error _ => .error .malformed
  | .ok (_, '.' :: rest) => do
      let rest ← skipDigits rest
      skipScale rest
  | .ok (_, rest) => skipScale rest

def skipScalar (text : List Char) : Except Rejection (List Char) :=
  match text with
  | [] => .error .cutShort
  | c :: rest =>
      if c = 'n' then readLetters ['u', 'l', 'l'] rest
      else if c = 't' then readLetters ['r', 'u', 'e'] rest
      else if c = 'f' then readLetters ['a', 'l', 's', 'e'] rest
      else if c = '"' then skipQuoted rest
      else if c = '-' then skipNumber rest
      else if c.isDigit then skipNumber text
      else .error .malformed

def skipColon (text : List Char) : Except Rejection (List Char) :=
  match skipBlanks text with
  | [] => .error .cutShort
  | ':' :: rest => .ok rest
  | _ => .error .malformed

def skipName (text : List Char) : Except Rejection (List Char) :=
  match skipBlanks text with
  | [] => .error .cutShort
  | '"' :: rest => do
      let rest ← skipQuoted rest
      skipColon rest
  | _ => .error .malformed

mutual

def skipValueWithin : Nat → List Char → Except Rejection (List Char)
  | 0, _ => .error .cutShort
  | fuel + 1, text =>
      match skipBlanks text with
      | '[' :: rest =>
          match skipBlanks rest with
          | [] => .error .cutShort
          | ']' :: rest => .ok rest
          | rest => skipItemsWithin fuel rest
      | '\x7b' :: rest =>
          match skipBlanks rest with
          | [] => .error .cutShort
          | '\x7d' :: rest => .ok rest
          | rest => skipMembersWithin fuel rest
      | rest => skipScalar rest

def skipItemsWithin : Nat → List Char → Except Rejection (List Char)
  | 0, _ => .error .cutShort
  | fuel + 1, text => do
      let rest ← skipValueWithin fuel text
      match skipBlanks rest with
      | [] => .error .cutShort
      | ',' :: rest => skipItemsWithin fuel rest
      | ']' :: rest => .ok rest
      | _ => .error .malformed

def skipMembersWithin : Nat → List Char → Except Rejection (List Char)
  | 0, _ => .error .cutShort
  | fuel + 1, text => do
      let rest ← skipName text
      let rest ← skipValueWithin fuel rest
      match skipBlanks rest with
      | [] => .error .cutShort
      | ',' :: rest => skipMembersWithin fuel rest
      | '\x7d' :: rest => .ok rest
      | _ => .error .malformed

end

/-- Passes over a value; every step into it uses up a character within two levels. -/
def skipValue (text : List Char) : Except Rejection (List Char) :=
  skipValueWithin (2 * text.length + 2) text

end CurveForge.Json
