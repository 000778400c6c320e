import Mathlib
import CurveForge.Proofs.Reading.Parsing

/-!
# Emitted bodies as programs

The body of an emitted function that splits a segment is read back as a program.
Its statements end with semicolons. The first one binds names to the control
points, every other one defines a name by an expression, or by an expression for
each component, and what is left behind the last semicolon is a pair of lists of
names. A program runs over any meaning of the operators.
-/

namespace CurveForge.Reading

inductive Definition where
  | scalar (value : Expression)
  | vector (components : List Expression)
  deriving DecidableEq

inductive Statement where
  | points (names : List String)
  | define (name : String) (value : Definition)
  deriving DecidableEq

/-- Statements and the names in both halves of the result. -/
structure Program where
  statements : List Statement
  first : List String
  second : List String
  deriving DecidableEq

def name? : List Token → Option String
  | [.word word] => if isIdentifier (String.ofList word) then some (String.ofList word) else none
  | _ => none

def names? (tokens : List Token) : Option (List String) :=
  (tokens.splitOn (.symbol ',')).mapM name?

def arguments? (tokens : List Token) : Option (List Expression) :=
  let items := tokens.splitOn (.symbol ',')
  if items.getLast? = some [.symbol ')'] then items.dropLast.mapM expressionOf? else none

/-- Names in brackets that take the control points. -/
def points? (tokens : List Token) : Option Statement :=
  match tokens.splitOn (.symbol ']') with
  | [inside, source] =>
      if source = [.symbol '=', .word "self.points".toList, .symbol '(', .symbol ')'] then
        (names? inside).map .points
      else none
  | _ => none

def vectorTypes : List (List Char) := ["Vector2".toList, "Vector3".toList]

def definition? : List Token → Option Definition
  | .word type :: .symbol ':' :: .symbol ':' :: .word method :: .symbol '(' :: arguments =>
      if type ∈ vectorTypes ∧ method = "new".toList then (arguments? arguments).map .vector
      else none
  | tokens => (expressionOf? tokens).map .scalar

/-- A statement without its semicolon; the type of a defined name is passed over. -/
def statement? : List Token → Option Statement
  | .word keyword :: .symbol '[' :: rest => if keyword = "let".toList then points? rest else none
  | .word keyword :: .word name :: .symbol ':' :: rest =>
      match rest.splitOn (.symbol '=') with
      | [_, value] =>
          if keyword = "let".toList then
            (name? [.word name]).bind fun name => (definition? value).map (.define name)
          else none
      | _ => none
  | _ => none

def segmentConstructor : List Token :=
  [.word "Self".toList, .symbol ':', .symbol ':', .word "new".toList]

def result? (tokens : List Token) : Option (List String × List String) :=
  match tokens.splitOn (.symbol '(') with
  | [[], opening, first, second] =>
      match first.splitOn (.symbol ')'), second.splitOn (.symbol ')') with
      | [firstNames, between], [secondNames, [], []] =>
          if opening = segmentConstructor ∧ between = .symbol ',' :: segmentConstructor then do
            let first ← names? firstNames
            let second ← names? secondNames
            return (first, second)
          else none
      | _, _ => none
  | _ => none

def program? (tokens : List Token) : Option Program := do
  let pieces := tokens.splitOn (.symbol ';')
  let statements ← pieces.dropLast.mapM statement?
  let (first, second) ← result? (pieces.getLastD [])
  return ⟨statements, first, second⟩

/-- The program that lines of source text spell. -/
def readProgram (lines : List String) : Option Program := program? (lines.flatMap tokens)

section Running

variable {α : Type}

def Store.bind (store : Store α) (name : String) (value : Value α) : Store α :=
  fun other => if other = name then some value else store other

def Store.bindAll (store : Store α) : List String → List (Value α) → Store α
  | name :: names, value :: values => (store.bind name value).bindAll names values
  | _, _ => store

variable (operations : Operations α)

def Definition.evaluate (store : Store α) : Definition → Option (Value α)
  | scalar value => (value.evaluate operations store).map .scalar
  | vector components => (components.mapM (Expression.evaluate operations store)).map .vector

/-- The store behind a statement, for a segment with the given control points. -/
def Statement.run (control : List (Value α)) (store : Store α) : Statement → Option (Store α)
  | points names =>
      if names.length = control.length then some (store.bindAll names control) else none
  | define name value => (value.evaluate operations store).map (store.bind name)

/-- The control points of both halves. -/
def Program.run (control : List (Value α)) (t : α) (program : Program) :
    Option (List (Value α) × List (Value α)) := do
  let start : Store α := Store.bind (fun _ => none) "t" (.scalar t)
  let store ← program.statements.foldlM (Statement.run operations control) start
  let first ← program.first.mapM store
  let second ← program.second.mapM store
  return (first, second)

def execute (control : List (Value α)) (t : α) (lines : List String) :
    Option (List (Value α) × List (Value α)) :=
  (readProgram lines).bind (Program.run operations control t)

/-- A run whose parts are known. -/
theorem Program.run_eq_some {program : Program} {control : List (Value α)} {t : α} {store : Store α}
    {first second : List (Value α)}
    (statements : program.statements.foldlM (Statement.run operations control)
      (Store.bind (fun _ => none) "t" (.scalar t)) = some store)
    (firstNames : program.first.mapM store = some first)
    (secondNames : program.second.mapM store = some second) :
    program.run operations control t = some (first, second) := by
  rw [Program.run, statements, Option.bind_eq_bind, Option.bind_some, firstNames,
    Option.bind_eq_bind, Option.bind_some, secondNames]
  rfl

end Running

namespace Store

variable {α : Type} {store : Store α} {name other : String} {value : Value α} {names : List String}
  {values : List (Value α)}

theorem bind_self : (store.bind name value) name = some value := if_pos rfl

theorem bind_of_ne (differ : other ≠ name) : (store.bind name value) other = store other :=
  if_neg differ

theorem bindAll_of_not_mem (absent : other ∉ names) :
    (store.bindAll names values) other = store other := by
  induction names generalizing store values with
  | nil => rfl
  | cons name rest ih =>
      rw [List.mem_cons, not_or] at absent
      cases values with
      | nil => rfl
      | cons value values => rw [bindAll, ih absent.2, bind_of_ne absent.1]

/-- Different names are bound to the values in order. -/
theorem bindAll_binds (store : Store α) (count : names.length = values.length)
    (nodup : names.Nodup) :
    List.Forall₂ (fun name value => (store.bindAll names values) name = some value) names
      values := by
  induction names generalizing store values with
  | nil =>
      cases values with
      | nil => exact .nil
      | cons value values => cases count
  | cons name rest ih =>
      cases values with
      | nil => cases count
      | cons value values =>
          obtain ⟨once, restNodup⟩ := List.nodup_cons.mp nodup
          refine .cons ?_ (ih (store.bind name value) (Nat.succ.inj count) restNodup)
          rw [bindAll, bindAll_of_not_mem once, bind_self]

end Store

theorem mapM_eq_some_map {α β : Type} {f : α → Option β} {g : α → β} {entries : List α}
    (each : ∀ entry ∈ entries, f entry = some (g entry)) :
    entries.mapM f = some (entries.map g) := by
  induction entries with
  | nil => rfl
  | cons entry rest ih =>
      obtain ⟨first, others⟩ := List.forall_mem_cons.mp each
      rw [List.mapM_cons, first, ih others]
      rfl

/-- Pieces with a separator behind each of them, and what is left behind the last one. -/
theorem splitOn_pieces {separator : Token} {pieces : List (List Token)} {tail : List Token}
    (absent : ∀ piece ∈ pieces, separator ∉ piece) (tailAbsent : separator ∉ tail) :
    ((pieces.flatMap fun piece => piece ++ [separator]) ++ tail).splitOn separator =
      pieces ++ [tail] := by
  induction pieces with
  | nil => exact List.splitOn_eq_singleton tailAbsent
  | cons piece rest ih =>
      obtain ⟨first, others⟩ := List.forall_mem_cons.mp absent
      rw [List.flatMap_cons, List.append_assoc, List.append_assoc, List.singleton_append,
        List.splitOn_append_cons_self_of_not_mem first, ih others, List.cons_append]

def nameTokens (names : List String) : List Token :=
  [Token.symbol ','].intercalate (names.map fun name => [.word name.toList])

theorem not_mem_nameTokens {c : Char} (other : c ≠ ',') (names : List String) :
    .symbol c ∉ nameTokens names := by
  unfold nameTokens
  induction names with
  | nil => simp
  | cons name rest ih =>
      cases rest with
      | nil => simp
      | cons second more =>
          rw [List.map_cons] at ih
          rw [List.map_cons, List.map_cons, List.intercalate_cons_cons]
          simp only [List.mem_append, List.mem_singleton, not_or]
          exact ⟨⟨nofun, fun same => other (Token.symbol.inj same)⟩, ih⟩

theorem names?_nameTokens {names : List String} (nonempty : names ≠ [])
    (identifiers : ∀ name ∈ names, isIdentifier name = true) :
    names? (nameTokens names) = some names := by
  have pieces : (nameTokens names).splitOn (.symbol ',') =
      names.map fun name => [.word name.toList] := by
    refine List.splitOn_intercalate _ ?_ (by simpa using nonempty)
    intro piece member
    obtain ⟨name, -, rfl⟩ := List.mem_map.mp member
    simp
  have each : ∀ name ∈ names, name? [.word name.toList] = some (id name) := by
    intro name member
    rw [name?, String.ofList_toList, if_pos (identifiers name member)]
    rfl
  rw [names?, pieces, List.mapM_map]
  exact (mapM_eq_some_map each).trans (by rw [List.map_id])

theorem points?_tokens {names : List String} (nonempty : names ≠ [])
    (identifiers : ∀ name ∈ names, isIdentifier name = true) :
    points? (nameTokens names ++ .symbol ']' ::
        [.symbol '=', .word "self.points".toList, .symbol '(', .symbol ')']) =
      some (.points names) := by
  rw [points?, List.splitOn_append_cons_self_of_not_mem (not_mem_nameTokens (by decide) names),
    List.splitOn_eq_singleton (by simp)]
  simp only [if_true, names?_nameTokens nonempty identifiers, Option.map_some]

def resultTokens (first second : List String) : List Token :=
  .symbol '(' :: segmentConstructor ++ .symbol '(' :: nameTokens first ++ .symbol ')' ::
    .symbol ',' :: segmentConstructor ++ .symbol '(' :: nameTokens second ++
      [.symbol ')', .symbol ')']

theorem result?_tokens {first second : List String} (firstNonempty : first ≠ [])
    (secondNonempty : second ≠ []) (firstNames : ∀ name ∈ first, isIdentifier name = true)
    (secondNames : ∀ name ∈ second, isIdentifier name = true) :
    result? (resultTokens first second) = some (first, second) := by
  have outer : (resultTokens first second).splitOn (.symbol '(') =
      [[], segmentConstructor, nameTokens first ++ .symbol ')' :: .symbol ',' :: segmentConstructor,
        nameTokens second ++ [.symbol ')', .symbol ')']] := by
    have absent : ∀ piece ∈ [[], segmentConstructor,
        nameTokens first ++ .symbol ')' :: .symbol ',' :: segmentConstructor],
        Token.symbol '(' ∉ piece := by
      simp [segmentConstructor, not_mem_nameTokens]
    have tailAbsent : Token.symbol '(' ∉ nameTokens second ++ [.symbol ')', .symbol ')'] := by
      simp [not_mem_nameTokens]
    simpa [resultTokens] using splitOn_pieces absent tailAbsent
  have inner (names : List String) {rest : List Token} (absent : Token.symbol ')' ∉ rest) :
      (nameTokens names ++ .symbol ')' :: rest).splitOn (.symbol ')') =
        [nameTokens names, rest] := by
    rw [List.splitOn_append_cons_self_of_not_mem (not_mem_nameTokens (by decide) names),
      List.splitOn_eq_singleton absent]
  have last : (nameTokens second ++ [Token.symbol ')', Token.symbol ')']).splitOn (.symbol ')') =
      [nameTokens second, [], []] := by
    rw [List.splitOn_append_cons_self_of_not_mem (not_mem_nameTokens (by decide) second)]
    rfl
  have between : Token.symbol ')' ∉ .symbol ',' :: segmentConstructor := by
    simp [segmentConstructor]
  simp only [result?, outer, inner first between, last, and_self, if_true,
    names?_nameTokens firstNonempty firstNames, names?_nameTokens secondNonempty secondNames]
  rfl

theorem arguments?_tokens {β : Type} {entries : List β} {item : β → List Token}
    {read : β → Expression} (absent : ∀ entry ∈ entries, .symbol ',' ∉ item entry)
    (each : ∀ entry ∈ entries, expressionOf? (item entry) = some (read entry)) :
    arguments? (((entries.map item).flatMap fun item => item ++ [.symbol ',']) ++ [.symbol ')']) =
      some (entries.map read) := by
  rw [arguments?, splitOn_pieces (by simpa using absent) (by simp)]
  simp only [List.getLast?_concat, List.dropLast_concat, if_true, List.mapM_map]
  exact mapM_eq_some_map each

theorem program?_tokens {pieces : List (List Token)} {tail : List Token}
    {statements : List Statement} {first second : List String}
    (absent : ∀ piece ∈ pieces, .symbol ';' ∉ piece) (tailAbsent : .symbol ';' ∉ tail)
    (each : pieces.mapM statement? = some statements)
    (result : result? tail = some (first, second)) :
    program? ((pieces.flatMap fun piece => piece ++ [.symbol ';']) ++ tail) =
      some ⟨statements, first, second⟩ := by
  rw [program?, splitOn_pieces absent tailAbsent]
  simp only [List.dropLast_concat, List.getLastD_concat, each, result]
  rfl

end CurveForge.Reading
