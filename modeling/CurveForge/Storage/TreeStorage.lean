import CurveForge.Storage.Basic
import CurveForge.Storage.FileTree

/-!
# File trees as storage

The operations of a file system on a file tree. Making a directory fails only where
the tree does not allow it, and changes nothing then. A write empties its file before
it stores the text, and it can go wrong on either side of that: a file that cannot be
opened stays as it is, and a write that breaks off leaves in the file whatever it had
stored. Which writes go wrong is up to the medium that the tree is kept on.
-/

namespace CurveForge

/-- How a write goes wrong. A write that breaks off leaves some text in the file, and it may be
late: a buffered one is, if the buffer was being filled no more. -/
inductive Mishap where
  | unopened (reason : StorageFailure)
  | brokenOff (left : String) (late : Bool) (reason : StorageFailure)
  deriving DecidableEq, Repr

namespace FileTree

def createDirectory (tree : FileTree) (path : String) : Except StorageFailure FileTree := do
  match ← tree.target path with
  | .entry place none => return tree.put place .directory
  | _ => throw .alreadyExists

/-- Opens a file for writing, which empties it, and makes it if it is missing. -/
def openFile (tree : FileTree) (path : String) : Except StorageFailure (TreePath × FileTree) := do
  match ← tree.target path with
  | .dots => throw .isDirectory
  | .entry _ (some .directory) => throw .isDirectory
  | .entry place (some .fullDevice) => return (place, tree)
  | .entry place _ => return (place, tree.put place (.file ""))

/-- Stores a text in an open file. The full device takes no text, and any other file takes it all.
-/
def store (tree : FileTree) (place : TreePath) (text : String) :
    Except BufferedFailure Unit × FileTree :=
  match tree.node? place with
  | some .fullDevice =>
      (if text.isEmpty then .ok () else .error (.ofStoring text .deviceFull), tree)
  | _ => (.ok (), tree.put place (.file text))

/-- What a text that could not be stored leaves in an open file. -/
def breakOff (tree : FileTree) (place : TreePath) (left : String) : FileTree :=
  match tree.node? place with
  | some .fullDevice => tree
  | _ => tree.put place (.file left)

/-- Writes a file through the buffer: the answer, and the tree afterwards. -/
def write (tree : FileTree) (mishap? : Option Mishap) (path text : String) :
    Except BufferedFailure Unit × FileTree :=
  match tree.openFile path, mishap? with
  | .error reason, _ => (.error (.outside reason), tree)
  | .ok _, some (.unopened reason) => (.error (.outside reason), tree)
  | .ok (place, opened), some (.brokenOff left late reason) =>
      (.error (if late then .outside reason else .ofStoring text reason),
        opened.breakOff place left)
  | .ok (place, opened), none => opened.store place text

end FileTree

/-- What a file tree is kept on: a state that has the tree in it and tells how the next write goes
wrong, if it does. -/
structure Medium (σ : Type) where
  tree : σ → FileTree
  change : FileTree → σ → σ
  mishap? : σ → Option Mishap
  tree_change : ∀ after s, tree (change after s) = after

namespace Medium

variable {σ : Type}

def storage (medium : Medium σ) : Storage (StateM σ) where
  createDirectory path := fun s =>
    match (medium.tree s).createDirectory path with
    | .ok after => (.ok (), medium.change after s)
    | .error reason => (.error reason, s)
  isDirectory path := fun s => ((medium.tree s).isDirectory path, s)
  writeFile path text := fun s =>
    let (answer, after) := (medium.tree s).write (medium.mishap? s) path text
    (answer.mapError BufferedFailure.reason, medium.change after s)
  writeBuffered path text := fun s =>
    let (answer, after) := (medium.tree s).write (medium.mishap? s) path text
    (answer, medium.change after s)

/-- A tree by itself, on which nothing goes wrong. -/
def reliable : Medium FileTree := ⟨id, fun after _ => after, fun _ => none, fun _ _ => rfl⟩

@[simp]
theorem tree_reliable (tree : FileTree) : reliable.tree tree = tree := rfl

/-- A tree with what befalls the next changes of it, one after another; nothing befalls later ones.
-/
def scripted : Medium (FileTree × List (Option Mishap)) where
  tree := Prod.fst
  change after s := (after, s.2.tail)
  mishap? s := s.2.head?.join
  tree_change _ _ := rfl

end Medium

def FileTree.storage : Storage (StateM FileTree) := Medium.reliable.storage

end CurveForge
