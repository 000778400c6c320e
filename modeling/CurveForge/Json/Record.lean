import CurveForge.Json.Skip

/-!
# Records

A layout says where line breaks stand and what follows a member's name. Both
layouts write the same values in the same order: the compact one without any
blank, the indented one with two spaces for each level.

A record is read for a fixed list of fields. It may be written as an object, whose
members come in any order and among members that no field asks for, or as a list of
the values in field order. The values come back in field order in either case.
-/

namespace CurveForge

namespace Json

def hexDigit (n : Nat) : Char := Nat.digitChar (n % 16)

/-- The form of a character inside a quoted text. Only quotes, backslashes and controls are
escaped. -/
def escape (c : Char) : List Char :=
  if c = '"' then ['\\', '"']
  else if c = '\\' then ['\\', '\\']
  else if c = '\x08' then ['\\', 'b']
  else if c = '\x0c' then ['\\', 'f']
  else if c = '\n' then ['\\', 'n']
  else if c = '\r' then ['\\', 'r']
  else if c = '\t' then ['\\', 't']
  else if c.toNat < 0x20 then
    ['\\', 'u', '0', '0', hexDigit (c.toNat / 16), hexDigit c.toNat]
  else [c]

def quote (text : String) : String :=
  "\"" ++ String.ofList (text.toList.flatMap escape) ++ "\""

/-- Where line breaks stand at each depth, and what separates a name from its value. -/
structure Layout where
  lineBreak : Nat → String
  colon : String

namespace Layout

def compact : Layout := ⟨fun _ => "", ":"⟩

def indented : Layout := ⟨fun depth => "\n" ++ String.ofList (List.replicate (2 * depth) ' '), ": "⟩

def member (layout : Layout) (depth : Nat) (name value : String) : String :=
  layout.lineBreak (depth + 1) ++ quote name ++ layout.colon ++ value

def object (layout : Layout) (depth : Nat) (members : List (String × String)) : String :=
  "\x7b" ++ ",".intercalate (members.map fun m => layout.member depth m.1 m.2) ++
    layout.lineBreak depth ++ "\x7d"

def list (layout : Layout) (depth : Nat) (items : List String) : String :=
  if items.isEmpty then "[]"
  else
    "[" ++ ",".intercalate (items.map (layout.lineBreak (depth + 1) ++ ·)) ++
      layout.lineBreak depth ++ "]"

end Layout

/-- What a field holds: a word with a sign, a word without one, or a text. -/
inductive FieldKind where
  | signed
  | unsigned
  | text
  deriving DecidableEq, Repr

structure Field where
  name : String
  kind : FieldKind
  deriving DecidableEq, Repr

inductive FieldValue where
  | number (value : Int)
  | text (value : String)
  deriving DecidableEq, Repr

def FieldKind.ofNumber (kind : FieldKind) (number : Number) : Except Rejection FieldValue :=
  match kind, number with
  | .signed, .natural value =>
      if value < signLimit then .ok (.number value) else .error .mismatch
  | .signed, .negative value => .ok (.number (-value))
  | .unsigned, .natural value => .ok (.number value)
  | _, _ => .error .mismatch

/-- Reads the value of a field. A value of another shape is read whole unless it is a list or an
object. -/
def readField (kind : FieldKind) (text : List Char) : Except Rejection (FieldValue × List Char) :=
  match skipBlanks text with
  | [] => .error .cutShort
  | c :: rest =>
      if c = '"' then do
        let (value, rest) ← readQuoted rest
        if kind = .text then return (.text value, rest) else throw .mismatch
      else if c = '-' || c.isDigit then do
        let (number, rest) ← readNumber (c :: rest)
        let value ← kind.ofNumber number
        return (value, rest)
      else if c = '[' || c = '\x7b' then .error .mismatch
      else do
        let _ ← skipScalar (c :: rest)
        throw .mismatch

/-- A field and, once it has been read, its value. -/
structure Slot where
  field : Field
  value : Option FieldValue
  deriving DecidableEq, Repr

def fillSlots (name : String) (value : FieldValue) (slots : List Slot) : List Slot :=
  slots.map fun slot => if slot.field.name = name then ⟨slot.field, some value⟩ else slot

/-- The values of all slots; a slot without one is a mismatch. -/
def slotValues (slots : List Slot) : Except Rejection (List FieldValue) :=
  slots.mapM fun slot =>
    match slot.value with
    | some value => .ok value
    | none => .error .mismatch

/-- Reads the value of a name and stores it if a slot asks for it; a second value is a mismatch. -/
def readMember (slots : List Slot) (name : String) (text : List Char) :
    Except Rejection (List Slot × List Char) :=
  match slots.find? fun slot => slot.field.name = name with
  | some ⟨_, some _⟩ => .error .mismatch
  | some ⟨field, none⟩ => do
      let rest ← skipColon text
      let (value, rest) ← readField field.kind rest
      return (fillSlots name value slots, rest)
  | none => do
      let rest ← skipColon text
      let rest ← skipValue rest
      return (slots, rest)

def readMembersWithin : Nat → Bool → List Slot → List Char →
    Except Rejection (List FieldValue × List Char)
  | 0, _, _, _ => .error .cutShort
  | fuel + 1, first, slots, text =>
      match skipBlanks text with
      | [] => .error .cutShort
      | '\x7d' :: rest => do
          let values ← slotValues slots
          return (values, rest)
      | '"' :: rest =>
          if first then readMemberThen fuel slots rest else .error .malformed
      | ',' :: rest =>
          if first then .error .malformed
          else
            match skipBlanks rest with
            | [] => .error .cutShort
            | '"' :: rest => readMemberThen fuel slots rest
            | _ => .error .malformed
      | _ => .error .malformed
where
  /-- Reads a member behind the quote of its name, then the others. -/
  readMemberThen (fuel : Nat) (slots : List Slot) (text : List Char) :
      Except Rejection (List FieldValue × List Char) := do
    let (name, rest) ← readQuoted text
    let (slots, rest) ← readMember slots name rest
    readMembersWithin fuel false slots rest

def readListEnd (text : List Char) : Except Rejection (List Char) :=
  match skipBlanks text with
  | [] => .error .cutShort
  | ']' :: rest => .ok rest
  | _ => .error .malformed

def nextItem (first : Bool) (text : List Char) : Except Rejection (Bool × List Char) :=
  match skipBlanks text with
  | [] => .error .cutShort
  | ']' :: rest => .ok (false, rest)
  | ',' :: rest =>
      if first then .ok (true, ',' :: rest)
      else
        match skipBlanks rest with
        | [] => .error .cutShort
        | ']' :: _ => .error .malformed
        | rest => .ok (true, rest)
  | rest => if first then .ok (true, rest) else .error .malformed

def readItems : Bool → List Field → List Char → Except Rejection (List FieldValue × List Char)
  | _, [], text => do
      let rest ← readListEnd text
      return ([], rest)
  | first, field :: fields, text => do
      let (found, rest) ← nextItem first text
      if !found then throw .mismatch
      let (value, rest) ← readField field.kind rest
      let (values, rest) ← readItems false fields rest
      return (value :: values, rest)

/-- Reads a value that is neither a record nor a list where one of them is wanted. -/
def refuseScalar {α : Type} (text : List Char) : Except Rejection α := do
  let _ ← readField .text text
  throw .mismatch

def readRecord (fields : List Field) (text : List Char) :
    Except Rejection (List FieldValue × List Char) :=
  match skipBlanks text with
  | [] => .error .cutShort
  | '\x7b' :: rest =>
      readMembersWithin (rest.length + 1) true (fields.map fun field => ⟨field, none⟩) rest
  | '[' :: rest => readItems true fields rest
  | rest => refuseScalar rest

def readRecordsWithin (fields : List Field) :
    Nat → Bool → List Char → Except Rejection (List (List FieldValue) × List Char)
  | 0, _, _ => .error .cutShort
  | fuel + 1, first, text => do
      let (found, rest) ← nextItem first text
      if !found then return ([], rest)
      let (record, rest) ← readRecord fields rest
      let (records, rest) ← readRecordsWithin fields fuel false rest
      return (record :: records, rest)

def readRecords (fields : List Field) (text : List Char) :
    Except Rejection (List (List FieldValue) × List Char) :=
  match skipBlanks text with
  | [] => .error .cutShort
  | '[' :: rest => readRecordsWithin fields (rest.length + 1) true rest
  | '\x7b' :: _ => .error .mismatch
  | rest => refuseScalar rest

def readWholeText {α : Type} (read : List Char → Except Rejection (α × List Char))
    (text : String) : Except Rejection α := do
  let (value, rest) ← read text.toList
  if (skipBlanks rest).isEmpty then return value else throw .malformed

end Json

end CurveForge
