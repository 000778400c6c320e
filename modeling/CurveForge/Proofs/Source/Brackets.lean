import Mathlib
import CurveForge.Proofs.Source.Lines
import CurveForge.Source.Basic

/-!
# Brackets in source text

Reading a text from left to right keeps the brackets that are due, the innermost
first. What a text closes and opens does not depend on what stands around it, so
the brackets of a text can be told from its parts. A tree is steady if its lines
leave the brackets as they were and if each line is indented by the number of
brackets that are due before it.
-/

namespace CurveForge

namespace Brackets

def closing? : Char → Option Char
  | '(' => some ')'
  | '[' => some ']'
  | '\x7b' => some '\x7d'
  | _ => none

def isClosing (c : Char) : Bool := c == ')' || c == ']' || c == '\x7d'

def all : List Char := ['(', ')', '[', ']', '\x7b', '\x7d']

/-- What is due after a closing bracket, which has to be the one that is due next. -/
def close (c : Char) : List Char → Option (List Char)
  | [] => none
  | expected :: rest => if c = expected then some rest else none

/-- The brackets that are due after a character. -/
def readChar (due : List Char) (c : Char) : Option (List Char) :=
  match closing? c with
  | some closing => some (closing :: due)
  | none => if isClosing c then close c due else some due

def read (due : List Char) (text : String) : Option (List Char) := text.toList.foldlM readChar due

def readLines (due : List Char) (lines : List String) : Option (List Char) := lines.foldlM read due

theorem read_append (due : List Char) (first second : String) :
    read due (first ++ second) = read due first >>= fun next => read next second := by
  rw [read, String.toList_append, List.foldlM_append]
  rfl

theorem close_frame {due next : List Char} {c : Char} (step : close c due = some next)
    (more : List Char) : close c (due ++ more) = some (next ++ more) := by
  cases due with
  | nil => cases step
  | cons expected rest =>
      by_cases same : c = expected
      · rw [close, if_pos same] at step
        cases step
        exact if_pos same
      · rw [close, if_neg same] at step
        cases step

/-- What is due further outside does not matter for a character that can be read without it. -/
theorem readChar_frame {due next : List Char} {c : Char} (step : readChar due c = some next)
    (more : List Char) : readChar (due ++ more) c = some (next ++ more) := by
  unfold readChar at step ⊢
  split at step
  next closing _ =>
    cases step
    rfl
  next =>
    split at step
    next closes => rw [if_pos closes, close_frame step more]
    next stays =>
      cases step
      rw [if_neg stays]

theorem foldlM_readChar_frame {due next : List Char} {chars : List Char}
    (steps : chars.foldlM readChar due = some next) (more : List Char) :
    chars.foldlM readChar (due ++ more) = some (next ++ more) := by
  induction chars generalizing due with
  | nil =>
      cases steps
      rfl
  | cons c rest ih =>
      rw [List.foldlM_cons] at steps ⊢
      obtain ⟨middle, step, later⟩ := Option.bind_eq_some_iff.mp steps
      rw [readChar_frame step more]
      exact ih later

/-! ## What a text closes and opens -/

/-- Whatever is due outside, the text closes some brackets and leaves others due. -/
def Turns (text : String) (closed opened : List Char) : Prop :=
  ∀ due, read (closed ++ due) text = some (opened ++ due)

abbrev Balanced (text : String) : Prop := Turns text [] []

theorem turns_lit {chars closed opened : List Char}
    (steps : chars.foldlM readChar closed = some opened) :
    Turns (String.ofList chars) closed opened := by
  intro due
  rw [read, String.toList_ofList]
  exact foldlM_readChar_frame steps due

variable {first second text opening inner closing : String} {closed due opened : List Char}

/-- It is enough to read the text where nothing is due further outside. -/
theorem turns_iff : Turns text closed opened ↔ read closed text = some opened := by
  constructor
  · intro turns
    simpa using turns []
  · intro steps
    exact foldlM_readChar_frame steps

instance (text : String) (closed opened : List Char) : Decidable (Turns text closed opened) :=
  decidable_of_iff _ turns_iff.symm

theorem Turns.append (turns : Turns first closed due) (later : Turns second due opened) :
    Turns (first ++ second) closed opened := by
  intro outside
  rw [read_append, turns]
  exact later outside

theorem Turns.append_lit {chars : List Char} (turns : Turns first closed due)
    (steps : chars.foldlM readChar due = some opened) :
    Turns (first ++ String.ofList chars) closed opened :=
  turns.append (turns_lit steps)

/-- A balanced text can stand inside brackets. -/
theorem Turns.inside (balanced : Balanced text) (due : List Char) : Turns text due due :=
  fun outside => balanced (due ++ outside)

/-- A balanced text between a text that opens brackets and one that closes them. -/
theorem balanced_between (due : List Char) (opens : Turns opening [] due) (balanced : Balanced inner)
    (closes : Turns closing due []) : Balanced (opening ++ inner ++ closing) :=
  (opens.append (balanced.inside due)).append closes

def BracketFree (text : String) : Prop := ∀ c ∈ text.toList, c ∉ all

instance (text : String) : Decidable (BracketFree text) := List.decidableBAll _ _

theorem isClosing_of_free {c : Char} (free : c ∉ all) : isClosing c = false := by
  simp only [all, List.mem_cons, List.not_mem_nil, or_false, not_or] at free
  simp [isClosing, free]

theorem readChar_of_free {c : Char} (free : c ∉ all) (due : List Char) :
    readChar due c = some due := by
  have unopened : closing? c = none := by
    unfold closing?
    split <;> first | rfl | exact absurd (by decide) free
  simp [readChar, unopened, isClosing_of_free free]

theorem BracketFree.balanced (free : BracketFree text) : Balanced text := by
  intro due
  have run (chars : List Char) (free : ∀ c ∈ chars, c ∉ all) :
      chars.foldlM readChar due = some due := by
    induction chars with
    | nil => rfl
    | cons c rest ih =>
        obtain ⟨here, later⟩ := List.forall_mem_cons.mp free
        rw [List.foldlM_cons, readChar_of_free here]
        exact ih later
  exact run text.toList free

theorem free_of_isAlphanum {c : Char} (plain : c.isAlphanum = true) : c ∉ all := by
  intro bracket
  have punctuation : all.all (fun c => !c.isAlphanum) = true := by decide
  have other := List.all_eq_true.mp punctuation c bracket
  rw [plain] at other
  cases other

theorem free_of_isDigit {c : Char} (digit : c.isDigit = true) : c ∉ all :=
  free_of_isAlphanum (by simp [Char.isAlphanum, digit])

theorem bracketFree_toString (n : Nat) : BracketFree (toString n) :=
  fun _ member => free_of_isDigit
    (Nat.isDigit_of_mem_toDigits (by decide) (by decide) (Nat.toList_repr (n := n) ▸ member))

theorem balanced_intercalate {separator : String} {items : List String} (balanced : Balanced separator)
    (each : ∀ item ∈ items, Balanced item) : Balanced (separator.intercalate items) :=
  holds_intercalate (fun _ => rfl) Turns.append balanced each

open Phrase

theorem balanced_commas {items : List String} (each : ∀ item ∈ items, Balanced item) :
    Balanced (commas items) :=
  balanced_intercalate (turns_lit rfl) each

theorem balanced_braces (balanced : Balanced inner) : Balanced (braces inner) :=
  balanced_between ['\x7d'] (turns_lit rfl) balanced (turns_lit rfl)

/-! ## Lines in their places -/

def blanks (line : String) : Nat := (line.toList.takeWhile (· == ' ')).length

/-- Whether a line starts with a closing bracket behind its blanks. -/
def startsClosing (line : String) : Bool := (line.toList.dropWhile (· == ' ')).head?.any isClosing

/-- A line that is not empty starts with four blanks for every bracket that is due before it, except
for the one that it closes first. -/
def Aligned (due : List Char) (line : String) : Prop :=
  line ≠ "" → blanks line = 4 * (due.length - if startsClosing line then 1 else 0)

/-- Lines that are read one after another, each in its place. -/
inductive Flows : List Char → List String → List Char → Prop where
  | nil (due : List Char) : Flows due [] due
  | cons {due next last : List Char} {line : String} {rest : List String}
      (aligned : Aligned due line) (step : read due line = some next)
      (later : Flows next rest last) : Flows due (line :: rest) last

variable {next last : List Char} {line : String} {lines others : List String}

theorem Flows.single (aligned : Aligned due line) (step : read due line = some next) :
    Flows due [line] next :=
  .cons aligned step (.nil next)

theorem Flows.append (flows : Flows due lines next) (later : Flows next others last) :
    Flows due (lines ++ others) last := by
  induction flows with
  | nil => exact later
  | cons aligned step _ ih => exact .cons aligned step (ih later)

theorem Flows.readLines (flows : Flows due lines last) : readLines due lines = some last := by
  induction flows with
  | nil => rfl
  | cons aligned step _ ih => rw [Brackets.readLines, List.foldlM_cons, step]; exact ih

/-- Each line is in its place behind the lines before it. -/
theorem Flows.aligned {before after : List String}
    (flows : Flows due (before ++ line :: after) last) :
    ∃ next, Brackets.readLines due before = some next ∧ Aligned next line := by
  induction before generalizing due with
  | nil =>
      cases flows with
      | cons aligned step later => exact ⟨due, rfl, aligned⟩
  | cons first before ih =>
      cases flows with
      | cons aligned step later =>
          obtain ⟨next, result, place⟩ := ih later
          refine ⟨next, ?_, place⟩
          rw [Brackets.readLines, List.foldlM_cons, step]
          exact result

/-- The first character of the text is no blank and no closing bracket. -/
def StartsPlain (text : String) : Prop :=
  ∃ c rest, text.toList = c :: rest ∧ c ≠ ' ' ∧ isClosing c = false

theorem StartsPlain.append (plain : StartsPlain first) (second : String) :
    StartsPlain (first ++ second) := by
  obtain ⟨c, rest, spelled, proper⟩ := plain
  exact ⟨c, rest ++ second.toList, by rw [String.toList_append, spelled]; rfl, proper⟩

theorem toList_indentation_append (level : Nat) (text : String) :
    (Writer.indentation level ++ text).toList =
      List.replicate (4 * level) ' ' ++ text.toList := by
  rw [String.toList_append, Writer.indentation, String.toList_ofList]

theorem read_indentation_append (due : List Char) (level : Nat) (text : String) :
    read due (Writer.indentation level ++ text) = read due text := by
  have free : BracketFree (Writer.indentation level) := by
    intro c member
    rw [Writer.indentation, String.toList_ofList] at member
    rw [List.eq_of_mem_replicate member]
    decide
  rw [read_append, show read due (Writer.indentation level) = some due from free.balanced due]
  rfl

/-- The first character behind the indentation decides how the line starts. -/
theorem start_indentation_append {c : Char} {rest : List Char} (level : Nat)
    (spelled : text.toList = c :: rest) (visible : c ≠ ' ') :
    blanks (Writer.indentation level ++ text) = 4 * level ∧
      startsClosing (Writer.indentation level ++ text) = isClosing c := by
  have blank : ∀ d ∈ List.replicate (4 * level) ' ', (d == ' ') = true := by
    intro d member
    rw [List.eq_of_mem_replicate member]
    rfl
  have other : (c == ' ') = false := beq_eq_false_iff_ne.mpr visible
  rw [blanks, startsClosing, toList_indentation_append, List.takeWhile_append_of_pos blank,
    List.dropWhile_append_of_pos blank, spelled, List.takeWhile_cons_of_neg (by simp [other]),
    List.dropWhile_cons_of_neg (by simp [other])]
  simp

/-- A line that opens brackets, or none, and does not start with a closing one. -/
structure Neat (text : String) (opened : List Char) : Prop where
  plain : StartsPlain text
  turns : Turns text [] opened

theorem neat_lit {c : Char} {chars : List Char} (plain : (c == ' ' || isClosing c) = false)
    (steps : (c :: chars).foldlM readChar [] = some opened) :
    Neat (String.ofList (c :: chars)) opened := by
  obtain ⟨visible, other⟩ := Bool.or_eq_false_iff.mp plain
  exact ⟨⟨c, chars, String.toList_ofList, ne_of_beq_false visible, other⟩, turns_lit steps⟩

/-- A number starts with a digit. -/
theorem neat_toString (n : Nat) : Neat (toString n) [] := by
  have digits : (toString n).toList = Nat.toDigits 10 n := Nat.toList_repr
  refine ⟨?_, (bracketFree_toString n).balanced⟩
  obtain ⟨c, rest, spelled⟩ := List.exists_cons_of_ne_nil (Nat.toDigits_ne_nil (b := 10) (n := n))
  have digit : c.isDigit = true :=
    Nat.isDigit_of_mem_toDigits (by decide) (by decide) (spelled ▸ List.mem_cons_self)
  refine ⟨c, rest, digits.trans spelled, ?_, ?_⟩
  · rintro rfl
    cases digit
  · exact isClosing_of_free (free_of_isDigit digit)

theorem Neat.append (neat : Neat first due) (turns : Turns second due opened) :
    Neat (first ++ second) opened :=
  ⟨neat.plain.append second, neat.turns.append turns⟩

theorem Neat.append_lit {chars : List Char} (neat : Neat first due)
    (steps : chars.foldlM readChar due = some opened) :
    Neat (first ++ String.ofList chars) opened :=
  neat.append (turns_lit steps)

theorem neat_parens (balanced : Balanced inner) : Neat (parens inner) [] :=
  have opens : Neat "(" [')'] := neat_lit rfl rfl
  (opens.append (balanced.inside [')'])).append_lit rfl

theorem neat_brackets (balanced : Balanced inner) : Neat (brackets inner) [] :=
  have opens : Neat "[" [']'] := neat_lit rfl rfl
  (opens.append (balanced.inside [']'])).append_lit rfl

theorem balanced_parens (balanced : Balanced inner) : Balanced (parens inner) :=
  (neat_parens balanced).turns

theorem balanced_brackets (balanced : Balanced inner) : Balanced (brackets inner) :=
  (neat_brackets balanced).turns

theorem neat_intercalate {separator : String} {items : List String} (nonempty : items ≠ [])
    (balanced : Balanced separator) (each : ∀ item ∈ items, Neat item []) :
    Neat (separator.intercalate items) [] := by
  refine ⟨?_, balanced_intercalate balanced fun item member => (each item member).turns⟩
  cases items with
  | nil => exact absurd rfl nonempty
  | cons item rest =>
      have first := (each item List.mem_cons_self).plain
      cases rest with
      | nil => simpa using first
      | cons next others =>
          rw [String.intercalate_cons_cons, String.append_assoc]
          exact first.append _

/-- A name without brackets that does not start with a blank. -/
def IsPlainName (name : String) : Prop :=
  BracketFree name ∧ name.toList.head?.any (fun c => c != ' ') = true

instance (name : String) : Decidable (IsPlainName name) := inferInstanceAs (Decidable (_ ∧ _))

theorem IsPlainName.neat {name : String} (plain : IsPlainName name) : Neat name [] := by
  obtain ⟨free, visible⟩ := plain
  refine ⟨?_, free.balanced⟩
  cases spelled : name.toList with
  | nil =>
      rw [spelled] at visible
      cases visible
  | cons c rest =>
      rw [spelled] at visible
      have listed : c ∈ name.toList := spelled ▸ List.mem_cons_self
      exact ⟨c, rest, spelled, by simpa using visible, isClosing_of_free (free c listed)⟩

theorem Neat.flows (neat : Neat text opened) (due : List Char) :
    Flows due [Writer.indentation due.length ++ text] (opened ++ due) := by
  obtain ⟨⟨c, rest, spelled, visible, other⟩, turns⟩ := neat
  obtain ⟨count, start⟩ := start_indentation_append due.length spelled visible
  refine .single (fun _ => ?_) ((read_indentation_append due due.length text).trans (turns due))
  rw [count, start, other]
  simp

/-- A line that starts with the closing bracket it is there for. -/
structure Closes (text : String) (c : Char) : Prop where
  first : ∃ rest, text.toList = c :: rest
  closing : isClosing c = true
  turns : Turns text [c] []

theorem closes_lit {c : Char} {chars : List Char} (closing : isClosing c = true)
    (steps : (c :: chars).foldlM readChar [c] = some []) : Closes (String.ofList (c :: chars)) c :=
  ⟨⟨chars, String.toList_ofList⟩, closing, turns_lit steps⟩

theorem Closes.flows {c : Char} (closes : Closes text c) (due : List Char) :
    Flows (c :: due) [Writer.indentation due.length ++ text] due := by
  obtain ⟨⟨rest, spelled⟩, closing, turns⟩ := closes
  have visible : c ≠ ' ' := by
    rintro rfl
    cases closing
  obtain ⟨count, start⟩ := start_indentation_append due.length spelled visible
  refine .single (fun _ => ?_)
    ((read_indentation_append (c :: due) due.length text).trans (turns due))
  rw [count, start, closing]
  simp

/-! ## Steady trees -/

open Source

/-- Whatever is due before a tree is due behind it, and its lines are in their places. -/
def Steady (source : Source) : Prop := ∀ due, Flows due (source.linesAt due.length) due

variable {source body : Source} {pieces : List Source} {texts : List String} {header label : String}

theorem steady_nothing : Steady .nothing := fun due => .nil due

theorem steady_blank : Steady .blank := fun _ => .single (fun nonempty => absurd rfl nonempty) rfl

theorem steady_line (neat : Neat text []) : Steady (.line text) := neat.flows

theorem steady_both {first second : Source} (steady : Steady first) (later : Steady second) :
    Steady (.both first second) :=
  fun due => (steady due).append (later due)

theorem steady_concat (each : ∀ piece ∈ pieces, Steady piece) : Steady (concat pieces) := by
  induction pieces with
  | nil => exact steady_nothing
  | cons piece rest ih =>
      obtain ⟨here, later⟩ := List.forall_mem_cons.mp each
      exact steady_both here (ih later)

theorem steady_concat_map {α : Type} {items : List α} {piece : α → Source}
    (each : ∀ item ∈ items, Steady (piece item)) : Steady (concat (items.map piece)) :=
  steady_concat (List.forall_mem_map.mpr each)

theorem steady_ofLines (each : ∀ text ∈ texts, Neat text []) : Steady (ofLines texts) :=
  steady_concat_map fun text member => steady_line (each text member)

theorem steady_onlyIf (condition : Bool) (steady : Steady source) :
    Steady (onlyIf condition source) := by
  cases condition with
  | false => exact steady_nothing
  | true => exact steady

/-- A block closes the brace that its header opens. -/
theorem steady_block (neat : Neat header []) (steady : Steady body) :
    Steady (block header body) := by
  have opens : Neat (header ++ " \x7b") ['\x7d'] := neat.append_lit rfl
  have closes : Closes "\x7d" '\x7d' := closes_lit rfl rfl
  intro due
  rw [linesAt_block]
  exact ((opens.flows due).append (steady ('\x7d' :: due))).append (closes.flows due)

/-- An indented body between a line that opens a bracket and one that closes it. -/
theorem steady_scope {c : Char} (opens : Neat opening [c]) (steady : Steady body)
    (closes : Closes closing c) : Steady (concat [scope opening body, .line closing]) := by
  intro due
  have inside := ((opens.flows due).append (steady (c :: due))).append (closes.flows due)
  simpa [linesAt, scope, Guard.opening, Guard.closing, Guard.inner, Guard.indents] using inside

theorem steady_doc (balanced : Balanced text) : Steady (doc text) :=
  steady_line ((neat_lit rfl rfl : Neat "/// " []).append balanced)

theorem steady_comment (balanced : Balanced text) : Steady (comment text) :=
  steady_line ((neat_lit rfl rfl : Neat "// " []).append balanced)

theorem steady_marked (balanced : Balanced text) : Steady (marked text) :=
  have opens : Neat "#[" [']'] := neat_lit rfl rfl
  steady_line ((opens.append (balanced.inside [']'])).append_lit rfl)

theorem steady_region (balanced : Balanced label) (steady : Steady body) :
    Steady (region label body) := by
  have start : Neat ("// region: " ++ label) [] := (neat_lit rfl rfl).append balanced
  have finish : Neat "// endregion" [] := neat_lit rfl rfl
  intro due
  have lines := ((start.flows due).append (steady_blank due)).append
    (((steady due).append (steady_blank due)).append (finish.flows due))
  simpa [linesAt, region, Guard.opening, Guard.closing, Guard.inner, Guard.indents] using lines

/-- At the outermost level, the lines of a steady tree match all brackets. -/
theorem Steady.flows_lines (steady : Steady source) : Flows [] source.lines [] :=
  lines_eq_linesAt source ▸ steady []

end Brackets

end CurveForge
