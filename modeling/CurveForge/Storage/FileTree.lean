import CurveForge.Storage.Basic

/-!
# File trees

A file tree is everything below a directory: its entries by name, each with what
is inside it. Besides files and directories there are links to a device that is
always full, which can be opened but take no text. Only directories hold
entries.

`FileTree.node?` says what a path leads to, and so does the list of all entries.

A walk goes from place to place. Every step has to start in a directory, also a
step that stays there or goes up, and the first obstacle ends the walk. Above
the top there is nothing, so that a step up from it stays there.

An operation on the last step of a path does not walk it: it finds out which
entry the step names, whether or not there is such an entry.
-/

namespace CurveForge

/-- What a path leads to. -/
inductive FileNode where
  | file (text : String)
  | directory
  | fullDevice
  deriving DecidableEq, Repr

inductive FileTree where
  | empty
  | entry (name : String) (node : FileNode) (inside rest : FileTree)
  deriving DecidableEq, Repr

/-- A node with everything inside it. -/
structure Branch where
  node : FileNode
  inside : FileTree
  deriving DecidableEq, Repr

namespace FileTree

def child? (name : String) : FileTree → Option Branch
  | empty => none
  | entry other node inside rest =>
      if other = name then some ⟨node, inside⟩ else rest.child? name

/-- Puts a branch under a name in place of what was there. -/
def setChild (name : String) (branch : Branch) : FileTree → FileTree
  | empty => entry name branch.node branch.inside empty
  | entry other node inside rest =>
      if other = name then entry name branch.node branch.inside rest
      else entry other node inside (rest.setChild name branch)

def top (tree : FileTree) : Branch := ⟨.directory, tree⟩

end FileTree

namespace Branch

/-- The branch at the end of a path. -/
def find? : TreePath → Branch → Option Branch
  | [], branch => some branch
  | name :: rest, branch => (branch.inside.child? name).bind (find? rest)

/-- Puts a node at the end of a path, with nothing inside it, and makes the directories above it
that are missing. -/
def put (node : FileNode) : TreePath → Branch → Branch
  | [], _ => ⟨node, .empty⟩
  | name :: rest, branch =>
      let child := (branch.inside.child? name).getD FileTree.empty.top
      ⟨branch.node, branch.inside.setChild name (put node rest child)⟩

end Branch

namespace FileTree

/-- The node at a path; the top is a directory. -/
def node? (tree : FileTree) (path : TreePath) : Option FileNode :=
  (tree.top.find? path).map Branch.node

def put (tree : FileTree) (path : TreePath) (node : FileNode) : FileTree :=
  (tree.top.put node path).inside

/-- Puts a node at a written path; a directory that is there keeps its entries. -/
def plant (tree : FileTree) (path : String) (node : FileNode) : FileTree :=
  let names := TreePath.moves path
  if tree.node? names = some .directory then tree else tree.put names node

/-- All entries with their paths, a directory before what is inside it. -/
def entries : FileTree → List (TreePath × FileNode)
  | empty => []
  | entry name node inside rest =>
      ([name], node) :: (inside.entries.map fun e => (name :: e.1, e.2)) ++ rest.entries

/-- The entries in the order of their written paths. -/
def listing (tree : FileTree) : List (String × FileNode) :=
  (tree.entries.map fun e => (TreePath.text e.1, e.2)).mergeSort fun a b => a.1 ≤ b.1

end FileTree

/-- A branch of a tree and the directories around it, the innermost first, each with the name that
leads inside. -/
structure Place where
  branch : Branch
  above : List (String × FileTree)
  deriving DecidableEq, Repr

namespace Place

def top (tree : FileTree) : Place := ⟨tree.top, []⟩

def path (place : Place) : TreePath := (place.above.map Prod.fst).reverse

/-- The directory around a place. -/
def outside (place : Place) : Place :=
  match place.above with
  | [] => place
  | (_, tree) :: above => ⟨tree.top, above⟩

def directory (place : Place) : Except StorageFailure FileTree :=
  match place.branch.node with
  | .directory => .ok place.branch.inside
  | _ => .error .notDirectory

/-- The entry that a name stands for, if there is one; the name must not be too long. -/
def lookup (tree : FileTree) (name : String) : Except StorageFailure (Option Branch) :=
  if TreePath.longestName < name.utf8ByteSize then .error .nameTooLong else .ok (tree.child? name)

def enter (place : Place) (step : String) : Except StorageFailure Place := do
  let tree ← place.directory
  if step = "." then return place
  if step = ".." then return place.outside
  match ← lookup tree step with
  | some branch => return ⟨branch, (step, tree) :: place.above⟩
  | none => throw .notFound

def follow (place : Place) (steps : List String) : Except StorageFailure Place :=
  steps.foldlM enter place

/-- What the last step of a path stands for. -/
inductive Target where
  | dots
  | entry (path : TreePath) (node? : Option FileNode)
  deriving DecidableEq, Repr

/-- What a step from a place stands for if it is the last one. -/
def target (place : Place) (step : String) : Except StorageFailure Target := do
  let tree ← place.directory
  if step = "." || step = ".." then return .dots
  return .entry (place.path ++ [step]) ((← lookup tree step).map Branch.node)

end Place

namespace FileTree

def target (tree : FileTree) (path : String) : Except StorageFailure Place.Target := do
  let steps ← TreePath.walk path
  let place ← (Place.top tree).follow steps.dropLast
  place.target (steps.getLastD ".")

def locate (tree : FileTree) (path : String) : Except StorageFailure Place := do
  (Place.top tree).follow (← TreePath.walk path)

def isDirectory (tree : FileTree) (path : String) : Bool :=
  match tree.locate path with
  | .ok place => place.branch.node == .directory
  | .error _ => false

end FileTree

end CurveForge
