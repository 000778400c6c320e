/-!
# Source text as a tree

Lines of source text are grouped by what encloses them: a block with braces, a
scope that is only indented, or a region between two markers. A tree says what
is written; where each line starts follows from its depth alone.

Lines are put together from small phrases: lists with commas and the three kinds
of brackets.
-/

namespace CurveForge

inductive Guard where
  | block
  | scope
  | region
  deriving DecidableEq, Repr

/-- Whether lines inside stand one level deeper. -/
def Guard.indents : Guard → Bool
  | block => true
  | scope => true
  | region => false

inductive Source where
  | nothing
  | line (text : String)
  | blank
  | both (first second : Source)
  | enclosed (guard : Guard) (header : String) (body : Source)
  deriving DecidableEq, Repr

namespace Source

instance : Append Source := ⟨both⟩

def concat : List Source → Source
  | [] => nothing
  | piece :: rest => both piece (concat rest)

def ofLines (texts : List String) : Source := concat (texts.map line)

def commentText (text : String) : String := "// " ++ text

def docText (text : String) : String := "/// " ++ text

def docSeparator : String := "///"

def attributeText (text : String) : String := "#[" ++ text ++ "]"

def comment (text : String) : Source := line (commentText text)

def doc (text : String) : Source := line (docText text)

def marked (text : String) : Source := line (attributeText text)

def block (header : String) (body : Source) : Source := enclosed .block header body

def scope (header : String) (body : Source) : Source := enclosed .scope header body

def region (label : String) (body : Source) : Source := enclosed .region label body

def onlyIf (condition : Bool) (piece : Source) : Source := if condition then piece else nothing

end Source

namespace Phrase

def commas (items : List String) : String := ", ".intercalate items

def parens (inner : String) : String := "(" ++ inner ++ ")"

def brackets (inner : String) : String := "[" ++ inner ++ "]"

def braces (inner : String) : String := "\x7b" ++ inner ++ "\x7d"

/-- Every item but the last with a comma behind it. -/
def commaEnded : List String → List String
  | [] => []
  | [last] => [last]
  | item :: rest => (item ++ ",") :: commaEnded rest

end Phrase

end CurveForge
