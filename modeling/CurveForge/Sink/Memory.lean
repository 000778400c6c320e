import CurveForge.Document.Basic

/-!
# Sinks in memory

Documents are kept in the order of their writing, or only the names of their
files are. For trying out failures there is a sink that keeps documents but
refuses one write, or its end.
-/

namespace CurveForge

/-- The documents received so far, and whether the last one has been written. -/
structure Shelf where
  documents : List Document
  finished : Bool
  deriving DecidableEq, Repr

namespace Shelf

def empty : Shelf := ⟨[], false⟩

def find? (shelf : Shelf) (name : String) : Option Document :=
  shelf.documents.find? fun d => d.name == name

def put (d : Document) : ExceptT GenerationError (StateM Shelf) Unit :=
  modify fun shelf => { shelf with documents := shelf.documents ++ [d] }

def close : ExceptT GenerationError (StateM Shelf) Unit :=
  modify fun shelf => { shelf with finished := true }

def sink : Sink (StateM Shelf) := ⟨put, close⟩

/-- The sink that refuses the write with the given number, or the end if there is none. -/
def refusing (number : Option Nat) (reason : GenerationError) : Sink (StateM Shelf) where
  write d := do
    let shelf ← get
    if number = some shelf.documents.length then throw reason else put d
  finish := if number.isNone then throw reason else close

end Shelf

def fileNameSink : Sink (StateM (List String)) :=
  Sink.ofWrite fun d => modify fun names => names ++ [d.fileName]

end CurveForge
