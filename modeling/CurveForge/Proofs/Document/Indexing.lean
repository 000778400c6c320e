import Mathlib
import CurveForge.Proofs.Document.Generate
import CurveForge.Proofs.Document.Ties
import CurveForge.Proofs.Reading.Token
import CurveForge.Proofs.Source.Blocks

/-!
# The order of the points

A generated type lists its points in seven places: the fields, the parameters and the
initialiser of the constructor, the array of all points, and three matches on an index.
All of them are found in the lines of the document by the lines that open them, and all
list the points in the order of the family, up to the index that the errors report.
-/

namespace CurveForge

open Source Phrase Reading

/-- The arms of each match on an index inside a function. -/
def matchTables (start : String) (lines : List String) : List (List String) :=
  (blocksOf start (inside lines)).flatMap fun function =>
    (blocksOf "match i \x7b" function.2).map Prod.snd

/-- A table with an arm for each name at its index, one arm for all other indices, and no more. -/
structure Enumerates (names : List String) (arm : String → String) (otherwise : String)
    (table : List String) : Prop where
  length : table.length = names.length + 1
  arms : ∀ (i : Nat) (inside : i < names.length),
    table[i]? = some (toString i ++ " => " ++ arm names[i] ++ ",")
  last : table[names.length]? = some ("_ => " ++ otherwise ++ ",")

def rangeError (degree : Nat) : String :=
  "Err(IndexOutOfRange " ++ braces (" index: i, max: " ++ toString degree ++ " ") ++ ")"

def rangePanic (degree : Nat) : String :=
  "panic!" ++ parens ("\"Index has to be in the 0 to " ++ toString degree ++ " range, and " ++
    braces "" ++ " is outside that range\", i")

/-- The characters that end a name in the lines of a document. -/
def endsName (c : Char) : Bool := [' ', '(', ':'].contains c

/-- A name without blanks, parentheses and colons, as every identifier is. -/
def Unbroken (name : String) : Prop := ∀ c ∈ name.toList, endsName c = false

instance (name : String) : Decidable (Unbroken name) := List.decidableBAll _ name.toList

theorem unbroken_of_isIdentifier {name : String} (identifier : isIdentifier name = true) :
    Unbroken name := by
  intro c member
  have plain := isNameChar_of_mem_identifier identifier c member
  have apart {other : Char} (ends : isNameChar other = false) : c ≠ other := by
    rintro rfl
    cases plain.symm.trans ends
  have blank : c ≠ ' ' := apart (by decide +kernel)
  have opening : c ≠ '(' := apart (by decide +kernel)
  have colon : c ≠ ':' := apart (by decide +kernel)
  simp [endsName, blank, opening, colon]

/-- Behind two names, texts that differ are told apart, whatever the names are. -/
theorem Unbroken.apart {word name more behind : String} (unbroken : Unbroken name)
    (wordUnbroken : Unbroken word) (moreEnds : more.toList.head?.any endsName = true)
    (behindEnds : behind.toList.head?.any endsName = true) (apart : Apart more behind) :
    Apart (word ++ more) (name ++ behind) := by
  unfold Apart at apart ⊢
  rw [String.toList_append, String.toList_append]
  cases first : more.toList with
  | nil =>
      rw [first] at moreEnds
      cases moreEnds
  | cons c rest =>
      cases second : behind.toList with
      | nil =>
          rw [second] at behindEnds
          cases behindEnds
      | cons d others =>
          rw [first] at moreEnds apart
          rw [second] at behindEnds apart
          exact differ_of_words wordUnbroken unbroken moreEnds behindEnds apart

/-- The functions of a generated type that list its points. -/
inductive Accessor where
  | new
  | points
  | point
  | setPoint
  | index
  deriving DecidableEq

namespace Accessor

def start : Accessor → String
  | new => "pub const fn new("
  | points => "pub fn points(&self) -> ["
  | point => "pub fn point(&self, i: usize)"
  | setPoint => "pub fn set_point(&mut self, i: usize"
  | index => "fn index(&self, i: usize)"

variable (a : Accessor)

theorem opens : Opens a.start := by
  cases a with
  | index => exact ⟨'f', _, rfl, by decide⟩
  | _ => exact ⟨'p', _, rfl, by decide⟩

/-- Inside lines that are not indented, no function is found. -/
theorem encloses_unindented {source : Source} (none : outline (Writer.indentation 1) source = []) :
    Encloses a.start (inside (source.linesAt 0)) [] :=
  encloses_inside_of_flush a.opens.flush none

theorem apart_start {own : Accessor} (other : a ≠ own) : Apart a.start own.start := by
  revert other
  cases a <;> cases own <;> decide

end Accessor

namespace Blueprint

variable (b : Blueprint) (a : Accessor)

def initialiser (b : Blueprint) : Source :=
  block "Self" (concat [ofLines (b.pointNames.map (· ++ ",")), .line "curve: Cell::new(None),"])

def signature (b : Blueprint) : Accessor → String
  | .new => commas (b.pointNames.map fun p => p ++ ": " ++ b.dimension.point) ++ ") -> Self"
  | .points => b.dimension.point ++ ("; " ++ (toString (b.degree + 1) ++ "]"))
  | .point => " -> Result<" ++ (b.dimension.point ++ ", IndexOutOfRange>")
  | .setPoint => ", value: " ++ (b.dimension.point ++ ") -> Result<(), IndexOutOfRange>")
  | .index => " -> &" ++ b.dimension.point

def listing (b : Blueprint) : Accessor → Source
  | .new => b.initialiser
  | .points => .line (brackets (commas (b.pointNames.map ("self." ++ ·))))
  | .point => b.indexMatch (fun p => "Ok(self." ++ p ++ ")") b.outOfRange
  | .setPoint => concat [
      b.indexMatch (fun p => "self.set_" ++ p ++ "(value)") ("return " ++ b.outOfRange),
      .line "Ok(())"]
  | .index => b.indexMatch (fun p => "&self." ++ p) b.indexPanic

def found (b : Blueprint) (own a : Accessor) : List (String × List String) :=
  if a = own then [(own.start ++ b.signature own ++ " \x7b", (b.listing own).linesAt 0)] else []

/-- The block of a function is found as itself and as no other one. -/
theorem encloses_own {own : Accessor} {header : String} {body : Source}
    (opening : header = own.start ++ b.signature own) (inner : body = b.listing own) :
    Encloses a.start ((block header body).linesAt 0) (b.found own a) := by
  subst opening inner
  unfold found
  split
  next same =>
    subst same
    refine encloses_block a.opens.flush ?_ _
    rw [String.append_assoc]
    exact startsWith_append_self _ _
  next other =>
    have apart : Apart a.start (own.start ++ b.signature own) := (a.apart_start other).append _
    exact encloses_of_absent (a.opens.flush.outline_block_of_apart apart _)

theorem encloses_constructor : Encloses a.start (b.constructor.linesAt 0) (b.found .new a) := by
  have separator : startingWith a.start [docSeparator] = [] := a.opens.startingWith_comment "/"
  have heading : outline a.start parameterHeading = [] := by
    simp [parameterHeading, separator, a.opens.outline_doc]
  have parameters : outline a.start (concat (b.points.map fun p =>
      parameterDoc p.name p.description)) = [] := by
    simp [parameterDoc, a.opens.outline_doc]
  have header : "pub const fn new" ++ parens (commas (b.pointNames.map fun p =>
      p ++ ": " ++ b.dimension.point)) ++ " -> Self" = Accessor.new.start ++ b.signature .new := by
    have opening : Accessor.new.start = "pub const fn new" ++ "(" := rfl
    have closing : ") -> Self" = ")" ++ " -> Self" := rfl
    rw [opening, signature, closing, parens]
    simp only [String.append_assoc]
  exact encloses_skip (a.opens.outline_doc _) (encloses_skip heading (encloses_skip parameters
    (encloses_first (b.encloses_own a header rfl) rfl)))

theorem encloses_pointsFunction :
    Encloses a.start (b.pointsFunction.linesAt 0) (b.found .points a) := by
  have header : "pub fn points(&self) -> " ++
      brackets (b.dimension.point ++ "; " ++ toString (b.degree + 1)) =
        Accessor.points.start ++ b.signature .points := by
    have opening : Accessor.points.start = "pub fn points(&self) -> " ++ "[" := rfl
    rw [opening, signature, brackets]
    simp only [String.append_assoc]
  exact encloses_skip (a.opens.outline_doc _) (encloses_first (b.encloses_own a header rfl) rfl)

theorem encloses_pointByIndex :
    Encloses a.start (b.pointByIndex.linesAt 0) (b.found .point a) := by
  have header : "pub fn point(&self, i: usize) -> Result<" ++ b.dimension.point ++
      ", IndexOutOfRange>" = Accessor.point.start ++ b.signature .point := by
    have opening : "pub fn point(&self, i: usize) -> Result<" =
        Accessor.point.start ++ " -> Result<" := rfl
    rw [opening, signature]
    simp only [String.append_assoc]
  exact encloses_skip (a.opens.outline_doc _) (encloses_first (b.encloses_own a header rfl) rfl)

theorem encloses_setPointByIndex :
    Encloses a.start (b.setPointByIndex.linesAt 0) (b.found .setPoint a) := by
  have header : "pub fn set_point(&mut self, i: usize, value: " ++ b.dimension.point ++
      ") -> Result<(), IndexOutOfRange>" = Accessor.setPoint.start ++ b.signature .setPoint := by
    have opening : "pub fn set_point(&mut self, i: usize, value: " =
        Accessor.setPoint.start ++ ", value: " := rfl
    rw [opening, signature]
    simp only [String.append_assoc]
  exact encloses_skip (a.opens.outline_doc _) (encloses_first (b.encloses_own a header rfl) rfl)

theorem encloses_index : Encloses a.start
    ((block ("fn index(&self, i: usize) -> &" ++ b.dimension.point)
      (b.indexMatch (fun p => "&self." ++ p) b.indexPanic)).linesAt 0) (b.found .index a) := by
  have header : "fn index(&self, i: usize) -> &" ++ b.dimension.point =
      Accessor.index.start ++ b.signature .index := by
    have opening : "fn index(&self, i: usize) -> &" = Accessor.index.start ++ " -> &" := rfl
    rw [opening, signature]
    simp only [String.append_assoc]
  exact b.encloses_own a header rfl

/-! ## Functions that list no points -/

theorem outline_doc_indented (text : String) : outline (Writer.indentation 1) (doc text) = [] :=
  outline_line_of_apart (Apart.append (by decide) text)

theorem outline_blendDoc (summary : String) : outline a.start (blendDoc summary) = [] := by
  have separator : startingWith a.start [docSeparator] = [] := a.opens.startingWith_comment "/"
  simp [blendDoc, parameterHeading, parameterDoc, a.opens.outline_doc, separator]

theorem outline_curveFunction : outline a.start b.curveFunction = [] := by
  have header : Apart a.start ("pub fn curve(&self) -> " ++ b.dimension.polynomial) :=
    Apart.append (by cases a <;> decide) _
  simp [curveFunction, a.opens.outline_doc, a.opens.flush.outline_block_of_apart header]

theorem outline_lerpFunction : outline a.start b.lerpFunction = [] := by
  have header : Apart a.start "pub fn lerp(a: &Self, b: &Self, t: f32) -> Self" := by
    cases a <;> decide
  simp [lerpFunction, outline_blendDoc, a.opens.flush.outline_block_of_apart header]

theorem outline_slerpFunction (ends : EndPoints) : outline a.start (b.slerpFunction ends) = [] := by
  have header : Apart a.start "pub fn slerp(a: &Self, b: &Self, t: f32) -> Self" := by
    cases a <;> decide
  simp [slerpFunction, outline_blendDoc, a.opens.flush.outline_block_of_apart header]

theorem outline_splitFunction : outline a.start b.splitFunction = [] := by
  have header : Apart a.start "pub fn split(&self, t: f32) -> (Self, Self)" := by
    cases a <;> decide
  have separator : startingWith a.start [docSeparator] = [] := a.opens.startingWith_comment "/"
  simp [splitFunction, parameterHeading, parameterDoc, a.opens.outline_doc, separator,
    a.opens.flush.outline_block_of_apart header]

theorem outline_both (first second : Source) :
    outline a.start (first ++ second) = outline a.start first ++ outline a.start second :=
  startingWith_append ..

/-- The functions behind those that list the points. -/
theorem outline_blending : outline a.start (concat [.blank, b.lerpFunction,
    b.spherical.elim .nothing fun ends => .blank ++ b.slerpFunction ends,
    onlyIf b.splittable (.blank ++ b.splitFunction)]) = [] := by
  have blank : outline a.start Source.blank = [] := a.opens.flush.outline_blank
  have slerp : outline a.start
      (b.spherical.elim .nothing fun ends => .blank ++ b.slerpFunction ends) = [] := by
    cases b.spherical with
    | none => rfl
    | some ends => simp [outline_both, blank, outline_slerpFunction]
  have split : outline a.start (onlyIf b.splittable (.blank ++ b.splitFunction)) = [] := by
    cases b.splittable with
    | false => rfl
    | true => simp [onlyIf, outline_both, blank, outline_splitFunction]
  simp [blank, outline_lerpFunction, slerp, split]

section Names

variable {name : String} (unbroken : Unbroken name)
include unbroken

theorem apart_field (rest : String) : Apart a.start (name ++ (": " ++ rest)) := by
  have read (word more : String) (wordUnbroken : Unbroken word)
      (ends : more.toList.head?.any endsName = true) (apart : Apart more ": ") :
      Apart (word ++ more) (name ++ (": " ++ rest)) :=
    unbroken.apart wordUnbroken ends (by simp [endsName]) (apart.append rest)
  cases a with
  | new => exact read "pub" " const fn new(" (by decide) (by decide) (by decide)
  | points => exact read "pub" " fn points(&self) -> [" (by decide) (by decide) (by decide)
  | point => exact read "pub" " fn point(&self, i: usize)" (by decide) (by decide) (by decide)
  | setPoint =>
      exact read "pub" " fn set_point(&mut self, i: usize" (by decide) (by decide) (by decide)
  | index => exact read "fn" " index(&self, i: usize)" (by decide) (by decide) (by decide)

theorem apart_getter (d : Dimension) :
    Apart a.start ("pub fn " ++ (name ++ ("(&self) -> " ++ d.point))) := by
  have read (word more : String) (wordUnbroken : Unbroken word)
      (ends : more.toList.head?.any endsName = true)
      (apart : Apart more ("(&self) -> " ++ d.point)) :
      Apart ("pub fn " ++ (word ++ more)) ("pub fn " ++ (name ++ ("(&self) -> " ++ d.point))) :=
    (unbroken.apart wordUnbroken ends (by simp [endsName]) apart).prepend _
  cases a with
  | new => exact Apart.append (by decide) _
  | points => exact read "points" "(&self) -> [" (by decide) (by decide) (by cases d <;> decide)
  | point =>
      exact read "point" "(&self, i: usize)" (by decide) (by decide) (by cases d <;> decide)
  | setPoint =>
      exact read "set_point" "(&mut self, i: usize" (by decide) (by decide) (by cases d <;> decide)
  | index => exact Apart.append (by decide) _

theorem apart_setter (d : Dimension) :
    Apart a.start ("pub fn set_" ++ (name ++ ("(&mut self, value: " ++ (d.point ++ ")")))) := by
  have read (more : String) (ends : more.toList.head?.any endsName = true)
      (apart : Apart more "(&mut self, value: ") :
      Apart ("pub fn set_" ++ ("point" ++ more))
        ("pub fn set_" ++ (name ++ ("(&mut self, value: " ++ (d.point ++ ")")))) :=
    (unbroken.apart (by decide) ends (by simp [endsName]) (apart.append _)).prepend _
  cases a with
  | setPoint => exact read "(&mut self, i: usize" (by decide) (by decide)
  | _ => exact Apart.append (by decide) _

end Names

theorem outline_pointAccess {p : ControlPoint} (unbroken : Unbroken p.name) :
    outline a.start (b.pointAccess p) = [] := by
  have getter := apart_getter a unbroken b.dimension
  have setter := apart_setter a unbroken b.dimension
  simp only [← String.append_assoc] at getter setter
  simp [pointAccess, a.opens.outline_doc, a.opens.flush.outline_blank,
    a.opens.flush.outline_block_of_apart getter, a.opens.flush.outline_block_of_apart setter]

/-! ## The functions of a document -/

section Document

variable (unbroken : ∀ name ∈ b.pointNames, Unbroken name)
include unbroken

theorem encloses_controlPoints : Encloses a.start (b.controlPoints.linesAt 0)
    (b.found .point a ++ b.found .setPoint a) := by
  have each : outline a.start (concat (b.points.map b.pointAccess)) = [] := by
    rw [outline_concat, List.flatMap_map, List.flatMap_eq_nil_iff]
    intro p member
    exact b.outline_pointAccess a (unbroken p.name (List.mem_map_of_mem member))
  exact encloses_region a.opens _ (encloses_skip each (encloses_cons (b.encloses_pointByIndex a)
    (encloses_skip a.opens.flush.outline_blank (encloses_first (b.encloses_setPointByIndex a) rfl))))

theorem encloses_inherentImplementation :
    Encloses a.start (inside (b.inherentImplementation.linesAt 0)) (b.found .new a ++
      (b.found .points a ++ (b.found .point a ++ b.found .setPoint a))) := by
  have blank : outline a.start Source.blank = [] := a.opens.flush.outline_blank
  have header : Apart (Writer.indentation 1) ("impl " ++ b.name) := Apart.append (by decide) _
  refine encloses_inside_first (encloses_inside_block header ?_) (a.encloses_unindented rfl)
  exact encloses_cons (b.encloses_constructor a) (encloses_skip blank (encloses_skip
    (b.outline_curveFunction a) (encloses_skip blank (encloses_cons (b.encloses_pointsFunction a)
      (encloses_skip blank (encloses_first (b.encloses_controlPoints a unbroken)
        (b.outline_blending a)))))))

theorem encloses_definition : Encloses a.start (inside (b.definition.linesAt 0)) [] := by
  have fields : outline a.start
      (ofLines (b.pointNames.map fun p => p ++ ": " ++ b.dimension.point ++ ",")) = [] := by
    rw [outline_ofLines]
    apply List.filter_eq_nil_iff.mpr
    intro text member
    obtain ⟨p, listed, rfl⟩ := List.mem_map.mp member
    have apart := (apart_field a (unbroken p listed) (b.dimension.point ++ ",")).startsWith_append ""
    simpa only [String.append_assoc, String.append_empty, Bool.not_eq_true] using apart
  have cell : Apart a.start ("curve: Cell<Option<" ++ (b.dimension.polynomial ++ ">>,")) :=
    Apart.append (by cases a <;> decide) _
  have body : outline a.start (concat [
      ofLines (b.pointNames.map fun p => p ++ ": " ++ b.dimension.point ++ ","),
      marked "serde(skip)",
      .line ("curve: Cell<Option<" ++ b.dimension.polynomial ++ ">>,")]) = [] := by
    rw [← String.append_assoc] at cell
    rw [outline_concat]
    simp [fields, a.opens.outline_marked, outline_line_of_apart cell, -outline_line]
  have header : Apart (Writer.indentation 1) ("pub struct " ++ b.name) :=
    Apart.append (by decide) _
  exact encloses_inside_skip (a.encloses_unindented (outline_doc_indented _))
    (encloses_inside_skip (a.encloses_unindented (by decide))
      (encloses_inside_first (encloses_inside_block header (encloses_of_absent body))
        (a.encloses_unindented rfl)))

omit unbroken

/-- Every line of the imports is empty, a comment or a use. -/
theorem outline_imports_of_apart {start : String} (blank : outline start Source.blank = [])
    (slashes : Apart start "// ") (use : Apart start "use ") : outline start b.imports = [] := by
  have one (rest : String) : outline start (.line ("use " ++ rest)) = [] :=
    outline_line_of_apart (use.append rest)
  have many (rests : List String) : outline start (ofLines (rests.map ("use " ++ ·))) = [] := by
    rw [outline_ofLines]
    apply List.filter_eq_nil_iff.mpr
    intro text member
    obtain ⟨rest, -, rfl⟩ := List.mem_map.mp member
    exact Bool.eq_false_iff.mp (use.startsWith_append rest)
  have notice : outline start (comment generatedNotice) = [] :=
    outline_line_of_apart (slashes.append generatedNotice)
  have standard := many ["std::cell::Cell;", "std::fmt;", "std::hash::" ++ braces "Hash, Hasher" ++
    ";", "std::ops::Index;"]
  have vectors : outline start (vectorImports b.dimension) = [] := by
    cases b.dimension with
    | one => rfl
    | two => exact many ["cgmath::prelude::*;", "cgmath::Vector2;"]
    | three => exact many ["cgmath::prelude::*;", "cgmath::Vector3;"]
  have stored := one ("serde::" ++ braces "Deserialize, Serialize" ++ ";")
  have siblings (names : List String) : outline start (siblingImport names) = [] := by
    have sibling : Apart start "use super::" := use.append "super::"
    match names with
    | [] => rfl
    | [name] => exact outline_line_of_apart ((sibling.append name).append ";")
    | _ :: _ :: _ => exact outline_line_of_apart ((sibling.append _).append ";")
  have lerp (condition : Bool) :
      outline start (onlyIf condition (.line "use crate::math::lerp;")) = [] := by
    cases condition with
    | false => rfl
    | true => exact one "crate::math::lerp;"
  have slerp (condition : Bool) :
      outline start (onlyIf condition (.line "use crate::math::slerp;")) = [] := by
    cases condition with
    | false => rfl
    | true => exact one "crate::math::slerp;"
  have library (names : String) : outline start (.line ("use crate::" ++ names ++ ";")) = [] := by
    have own : Apart start "use crate::" := use.append "crate::"
    exact outline_line_of_apart ((own.append names).append ";")
  rw [imports, outline_concat]
  simp only [List.flatMap_cons, List.flatMap_nil, notice, blank, vectors, siblings, lerp, slerp,
    library, List.nil_append, List.append_nil]
  exact (congrArg₂ (· ++ ·) standard stored)

theorem encloses_implementation {trait name : String} {body : Source}
    {found : List (String × List String)} (encloses : Encloses a.start (body.linesAt 0) found) :
    Encloses a.start (inside ((implementation trait name body).linesAt 0)) found := by
  have header : Apart (Writer.indentation 1) ("impl " ++ (trait ++ (" for " ++ name))) :=
    Apart.append (by decide) _
  simp only [← String.append_assoc] at header
  exact encloses_inside_block header encloses

theorem encloses_traitImplementations :
    Encloses a.start (inside (b.traitImplementations.linesAt 0)) (b.found .index a) := by
  have silent {header : String} (apart : Apart a.start header) (body : Source) :
      Encloses a.start ((block header body).linesAt 0) [] :=
    encloses_of_absent (a.opens.flush.outline_block_of_apart apart body)
  have blank : Encloses a.start (inside (Source.blank.linesAt 0)) [] := a.encloses_unindented rfl
  have segment : Encloses a.start (inside (b.segmentImplementation.linesAt 0)) [] :=
    encloses_implementation a (silent (Apart.append (by cases a <;> decide) _) _)
  have equality : Encloses a.start (inside (b.equalityImplementation.linesAt 0)) [] :=
    encloses_implementation a (silent (by cases a <;> decide) _)
  have hash : Encloses a.start (inside (b.hashImplementation.linesAt 0)) [] :=
    encloses_implementation a (silent (by cases a <;> decide) _)
  have display : Encloses a.start (inside (b.displayImplementation.linesAt 0)) [] :=
    encloses_implementation a (silent (by cases a <;> decide) _)
  have output : outline a.start (.line ("type Output = " ++ b.dimension.point ++ ";")) = [] := by
    have apart : Apart a.start ("type Output = " ++ b.dimension.point ++ ";") :=
      (Apart.append (by cases a <;> decide) b.dimension.point).append ";"
    exact outline_line_of_apart apart
  have index : Encloses a.start (inside (b.indexImplementation.linesAt 0)) (b.found .index a) :=
    encloses_implementation a (encloses_skip output (encloses_skip a.opens.flush.outline_blank
      (encloses_first (b.encloses_index a) rfl)))
  exact encloses_inside_skip segment (encloses_inside_skip blank (encloses_inside_first index
    (encloses_inside_skip blank (encloses_inside_skip equality (encloses_inside_skip blank
      (encloses_inside_skip hash (encloses_inside_skip blank
        (encloses_inside_first display (a.encloses_unindented rfl)))))))))

theorem encloses_conversionInto {about : Source} (target parameter : String) (body : Source)
    (unindented : outline (Writer.indentation 1) about = []) :
    Encloses a.start (inside ((b.conversionInto target parameter about body).linesAt 0)) [] := by
  have apart : Apart a.start ("fn from(" ++ (parameter ++ (": " ++ (b.name ++ ") -> Self")))) :=
    Apart.append (by cases a <;> decide) _
  simp only [← String.append_assoc] at apart
  have silent : outline a.start (block ("fn from(" ++ parameter ++ ": " ++ b.name ++ ") -> Self")
      body) = [] := a.opens.flush.outline_block_of_apart apart body
  exact encloses_inside_skip (a.encloses_unindented rfl) (encloses_inside_skip
    (a.encloses_unindented unindented) (encloses_inside_first
      (encloses_implementation a (encloses_of_absent silent)) (a.encloses_unindented rfl)))

theorem encloses_dimensionCast : Encloses a.start (inside (b.dimensionCast.linesAt 0)) [] := by
  unfold dimensionCast
  cases b.castTarget with
  | none => exact a.encloses_unindented rfl
  | some target =>
      cases b.dimension <;>
        exact b.encloses_conversionInto a target _ _ (outline_doc_indented _)

theorem encloses_basisConversions :
    Encloses a.start (inside (b.basisConversions.linesAt 0)) [] := by
  unfold basisConversions
  induction b.conversions with
  | nil => exact a.encloses_unindented rfl
  | cons c rest ih =>
      exact encloses_inside_skip (b.encloses_conversionInto a c.target "s" _ rfl) ih

/-- Each function that lists the points is found once. -/
theorem blocksOf_document (unbroken : ∀ name ∈ b.pointNames, Unbroken name) :
    blocksOf a.start (inside b.document.lines) =
      [(a.start ++ b.signature a ++ " \x7b", (b.listing a).linesAt 0)] := by
  have sections : Encloses a.start (inside (b.source.linesAt 0)) ((b.found .new a ++
      (b.found .points a ++ (b.found .point a ++ b.found .setPoint a))) ++ b.found .index a) :=
    encloses_inside_skip (a.encloses_unindented
      (b.outline_imports_of_apart rfl (by decide) (by decide))) (encloses_inside_skip
      (b.encloses_definition a unbroken) (encloses_inside_cons
        (b.encloses_inherentImplementation a unbroken) (encloses_inside_first
          (b.encloses_traitImplementations a) (encloses_inside_skip (b.encloses_dimensionCast a)
            (encloses_inside_first (b.encloses_basisConversions a) (a.encloses_unindented rfl))))))
  rw [document, lines_eq_linesAt, sections.blocksOf_eq]
  cases a <;> rfl

theorem opens_type : Opens "pub struct " := ⟨'p', _, rfl, by decide⟩

theorem outline_type_implementation (trait name : String) (body : Source) :
    outline "pub struct " (implementation trait name body) = [] := by
  have header : Apart "pub struct " ("impl " ++ trait ++ " for " ++ name) :=
    ((Apart.append (by decide) trait).append " for ").append name
  exact opens_type.flush.outline_block_of_apart header body

theorem outline_type_conversionInto {about : Source} (target parameter : String) (body : Source)
    (silent : outline "pub struct " about = []) :
    outline "pub struct " (b.conversionInto target parameter about body) = [] := by
  simp [conversionInto, opens_type.flush.outline_blank, silent, outline_type_implementation]

/-- The type is found once, with its fields. -/
theorem blocksOf_type : blocksOf "pub struct " b.document.lines = [("pub struct " ++ b.name ++
    " \x7b", b.pointNames.map (fun p => p ++ ": " ++ b.dimension.point ++ ",") ++
      ["#[serde(skip)]", "curve: Cell<Option<" ++ b.dimension.polynomial ++ ">>,"])] := by
  have blank : outline "pub struct " Source.blank = [] := opens_type.flush.outline_blank
  have starts : startsWith "pub struct " ("pub struct " ++ b.name ++ " \x7b") = true := by
    rw [String.append_assoc]
    exact startsWith_append_self _ _
  have imports : outline "pub struct " b.imports = [] :=
    b.outline_imports_of_apart blank (by decide) (by decide)
  have functions : outline "pub struct " b.inherentImplementation = [] := by
    have header : Apart "pub struct " ("impl " ++ b.name) := Apart.append (by decide) b.name
    simp [inherentImplementation, blank, opens_type.flush.outline_block_of_apart header]
  have traits : outline "pub struct " b.traitImplementations = [] := by
    simp [traitImplementations, segmentImplementation, indexImplementation, equalityImplementation,
      hashImplementation, displayImplementation, blank, outline_type_implementation]
  have cast : outline "pub struct " b.dimensionCast = [] := by
    unfold dimensionCast
    cases b.castTarget with
    | none => rfl
    | some target =>
        cases b.dimension <;>
          exact b.outline_type_conversionInto target _ _ (opens_type.outline_doc _)
  have conversions : outline "pub struct " b.basisConversions = [] := by
    rw [basisConversions, outline_concat, List.flatMap_map, List.flatMap_eq_nil_iff]
    exact fun c _ => b.outline_type_conversionInto c.target "s" _ rfl
  have definition := encloses_block opens_type.flush starts (concat [
    ofLines (b.pointNames.map fun p => p ++ ": " ++ b.dimension.point ++ ","),
    marked "serde(skip)",
    .line ("curve: Cell<Option<" ++ b.dimension.polynomial ++ ">>,")])
  have sections : Encloses "pub struct " (b.source.linesAt 0) _ :=
    encloses_skip imports (encloses_first (encloses_skip (opens_type.outline_doc _) (encloses_skip
      (opens_type.outline_marked _) (encloses_first definition (by simp [blank]))))
        (by simp [functions, traits, cast, conversions]))
  rw [document, lines_eq_linesAt, sections.blocksOf_eq]
  simp [linesAt_ofLines, linesAt, marked, attributeText]

/-! ## Matches on an index -/

/-- The match on an index is found with a table of its arms. -/
theorem encloses_indexMatch (arm : String → String) (otherwise : String) :
    ∃ table, Enumerates b.pointNames arm otherwise table ∧ Encloses "match i \x7b"
      ((b.indexMatch arm otherwise).linesAt 0) [("match i \x7b", table)] := by
  have flush : Flush "match i \x7b" := ⟨'m', _, rfl, by decide, by decide⟩
  have lines : (concat [
      ofLines (b.pointNames.zipIdx.map fun entry => toString entry.2 ++ " => " ++ arm entry.1 ++ ","),
      .line ("_ => " ++ otherwise ++ ",")]).linesAt 0 = (b.pointNames.zipIdx.map fun entry =>
        toString entry.2 ++ " => " ++ arm entry.1 ++ ",") ++ ["_ => " ++ otherwise ++ ","] := by
    simp [linesAt]
  refine ⟨_, ?_, encloses_block flush (startsWith_append_self _ "") _⟩
  rw [lines]
  constructor
  · simp
  · intro i inside
    rw [List.getElem?_append_left (by simpa using inside)]
    simp [inside]
  · rw [List.getElem?_append_right (by simp)]
    simp

/-- A function that matches an index has one table. -/
theorem matchTables_document (unbroken : ∀ name ∈ b.pointNames, Unbroken name)
    {arm : String → String} {otherwise : String} (behind : List Source)
    (listing : (b.listing a).linesAt 0 =
      (concat (b.indexMatch arm otherwise :: behind)).linesAt 0)
    (silent : outline "match i \x7b" (concat behind) = []) :
    ∃ table, matchTables a.start b.document.lines = [table] ∧
      Enumerates b.pointNames arm otherwise table := by
  obtain ⟨table, enumerates, encloses⟩ := b.encloses_indexMatch arm otherwise
  refine ⟨table, ?_, enumerates⟩
  rw [matchTables, b.blocksOf_document a unbroken, List.flatMap_singleton, listing,
    (encloses_first encloses silent).blocksOf_eq]
  rfl

theorem entry_new : [(Accessor.new.start ++ b.signature .new ++ " \x7b",
    (b.listing .new).linesAt 0)] = [("pub const fn new(" ++
      commas (b.pointNames.map fun p => p ++ ": " ++ b.dimension.point) ++ ") -> Self \x7b",
      ["Self \x7b"] ++ b.pointNames.map (fun p => "    " ++ p ++ ",") ++
        ["    curve: Cell::new(None),", "\x7d"])] := by
  have closing : ") -> Self \x7b" = ") -> Self" ++ " \x7b" := rfl
  have inner : Writer.indentation 1 = "    " := rfl
  have cell : "    curve: Cell::new(None)," = "    " ++ "curve: Cell::new(None)," := rfl
  rw [closing, cell]
  simp [Accessor.start, signature, listing, initialiser, linesAt_block, linesAt, inner,
    String.append_assoc]

theorem entry_points : [(Accessor.points.start ++ b.signature .points ++ " \x7b",
    (b.listing .points).linesAt 0)] = [("pub fn points(&self) -> [" ++ b.dimension.point ++ "; " ++
      toString (b.degree + 1) ++ "] \x7b",
      ["[" ++ commas (b.pointNames.map fun p => "self." ++ p) ++ "]"])] := by
  have closing : "] \x7b" = "]" ++ " \x7b" := rfl
  rw [closing]
  simp [Accessor.start, signature, listing, linesAt, brackets, String.append_assoc]

end Document

end Blueprint

/-- The places in which a generated type lists its points, by the lines of its document: the fields,
the parameters and the initialiser of the constructor, the array of all points, and the functions
that read, replace and borrow a point by its index. -/
structure ListsPoints (names : List String) (degree : Nat) (d : Dimension) (document : Document) :
    Prop where
  count : names.length = degree + 1
  fields : blocksOf "pub struct " document.lines = [("pub struct " ++ document.name ++ " \x7b",
    names.map (fun p => p ++ ": " ++ d.point ++ ",") ++
      ["#[serde(skip)]", "curve: Cell<Option<" ++ d.polynomial ++ ">>,"])]
  construction : blocksOf "pub const fn new(" (inside document.lines) = [("pub const fn new(" ++
    commas (names.map fun p => p ++ ": " ++ d.point) ++ ") -> Self \x7b",
      ["Self \x7b"] ++ names.map (fun p => "    " ++ p ++ ",") ++
        ["    curve: Cell::new(None),", "\x7d"])]
  array : blocksOf "pub fn points(&self) -> [" (inside document.lines) =
    [("pub fn points(&self) -> [" ++ d.point ++ "; " ++ toString (degree + 1) ++ "] \x7b",
      ["[" ++ commas (names.map fun p => "self." ++ p) ++ "]"])]
  read : ∃ table, matchTables "pub fn point(&self, i: usize)" document.lines = [table] ∧
    Enumerates names (fun p => "Ok(self." ++ p ++ ")")
      (rangeError degree) table
  replaced : ∃ table, matchTables "pub fn set_point(&mut self, i: usize" document.lines = [table] ∧
    Enumerates names (fun p => "self.set_" ++ p ++ "(value)")
      ("return " ++ rangeError degree) table
  borrowed : ∃ table, matchTables "fn index(&self, i: usize)" document.lines = [table] ∧
    Enumerates names (fun p => "&self." ++ p) (rangePanic degree) table

/-- In a generated document, all places list the control points of the family in its order. The
tables on an index have one arm for each index up to the degree and one for all others, which
reports the degree as the largest index. -/
theorem generateType_listsPoints {catalog : Catalog} {f : Family} {number : Nat}
    {document : Document} (unbroken : ∀ name ∈ f.pointNames, Unbroken name)
    (generated : (generateType catalog f number).run = .ok (.ok document)) :
    ∃ d, Dimension.ofNumber number = .ok d ∧ ListsPoints f.pointNames f.degree d document := by
  obtain ⟨b, describes, fits, rfl⟩ := describes_of_generateType generated
  have names := describes.pointNames fits
  rw [← names] at unbroken ⊢
  refine ⟨b.dimension, describes.dimension, ?_⟩
  rw [← describes.degree]
  exact {
    count := by rw [names, fits.name_count, describes.degree]
    fields := b.blocksOf_type
    construction := (b.blocksOf_document .new unbroken).trans b.entry_new
    array := (b.blocksOf_document .points unbroken).trans b.entry_points
    read := b.matchTables_document .point unbroken [] (List.append_nil _).symm rfl
    replaced := b.matchTables_document .setPoint unbroken [.line "Ok(())"] rfl (by decide)
    borrowed := b.matchTables_document .index unbroken [] (List.append_nil _).symm rfl }

def functionNamed : Family :=
  { Catalog.hermite with pointNames := ["point", "set_point", "points", "new"] }

/-- The functions are not taken for those that read or replace a point of the same name. -/
theorem generateType_listsPoints_functionNamed :
    (∀ name ∈ functionNamed.pointNames, isIdentifier name = true) ∧
    ∃ document, (generateType Catalog.standard functionNamed 2).run = .ok (.ok document) ∧
      ListsPoints ["point", "set_point", "points", "new"] 3 .two document := by
  have identifiers : ∀ name ∈ functionNamed.pointNames, isIdentifier name = true := by
    decide +kernel
  obtain ⟨document, generated⟩ := Generation.exists_value_of_isSome
    (x := generateType Catalog.standard functionNamed 2) (by decide +kernel)
  obtain ⟨d, number, lists⟩ := generateType_listsPoints
    (fun name listed => unbroken_of_isIdentifier (identifiers name listed)) generated
  cases number
  exact ⟨identifiers, document, generated, lists⟩

end CurveForge
