import Mathlib
import CurveForge.Storage.FileTree

/-!
# Changes of a file tree

Putting an entry into a directory changes the entry with that name and no other
one. Every directory of the tree stays a directory, unless the entry takes the
place of one.
-/

namespace CurveForge

namespace FileTree

variable {tree : FileTree} {name other : String} {branch : Branch}

@[simp]
theorem child?_setChild_self (tree : FileTree) (name : String) (branch : Branch) :
    (tree.setChild name branch).child? name = some branch := by
  induction tree with
  | empty => simp [setChild, child?]
  | entry first node inside rest _ ih =>
      unfold setChild
      split
      · simp [child?]
      · next different => simp [child?, different, ih]

theorem child?_setChild_of_ne (different : other ≠ name) :
    (tree.setChild name branch).child? other = tree.child? other := by
  induction tree with
  | empty => simp [setChild, child?, different.symm]
  | entry first node inside rest _ ih =>
      unfold setChild
      split
      · next same =>
          subst same
          simp [child?, different.symm]
      · simp only [child?, ih]

/-- Only the last branch that is put under a name remains. -/
theorem setChild_setChild (tree : FileTree) (name : String) (first second : Branch) :
    (tree.setChild name first).setChild name second = tree.setChild name second := by
  induction tree with
  | empty => simp [setChild]
  | entry other node inside rest _ ih =>
      by_cases same : other = name
      · simp [setChild, same]
      · simp [setChild, same, ih]

end FileTree

namespace Branch

structure IsLeaf (branch : Branch) : Prop where
  node_ne : branch.node ≠ .directory
  inside_eq : branch.inside = .empty

variable {branch place : Branch} {path other : TreePath} {name : String} {node : FileNode}

theorem eq_of_node (named : branch.node = node) : branch = ⟨node, branch.inside⟩ := by
  subst named
  rfl

theorem find?_append (branch : Branch) (path rest : TreePath) :
    branch.find? (path ++ rest) = (branch.find? path).bind (find? rest) := by
  induction path generalizing branch with
  | nil => rfl
  | cons name path ih =>
      rw [List.cons_append, find?, find?]
      cases branch.inside.child? name with
      | none => rfl
      | some child => exact ih child

/-- The end of a path that is longer by one name. -/
theorem find?_concat (found : branch.find? path = some place) (name : String) :
    branch.find? (path ++ [name]) = place.inside.child? name := by
  rw [find?_append, found]
  exact Option.bind_fun_some (place.inside.child? name)

/-- A path leads to the node that has been put at its end. -/
theorem find?_put_self (branch : Branch) (node : FileNode) (path : TreePath) :
    (branch.put node path).find? path = some ⟨node, .empty⟩ := by
  induction path generalizing branch with
  | nil => rfl
  | cons name path ih =>
      rw [put, find?, FileTree.child?_setChild_self, Option.bind_some]
      exact ih _

/-- Putting a node into a directory sets the entry there. The induction is on the path to it. -/
theorem find?_put (found : branch.find? path = some place) (name : String) (node : FileNode) :
    (branch.put node (path ++ [name])).find? path =
      some ⟨place.node, place.inside.setChild name ⟨node, .empty⟩⟩ := by
  induction path generalizing branch with
  | nil =>
      cases found
      rfl
  | cons step path ih =>
      rw [find?] at found
      obtain ⟨child, entered, below⟩ := Option.bind_eq_some_iff.mp found
      simp only [List.cons_append, put, find?, entered, Option.getD_some,
        FileTree.child?_setChild_self, Option.bind_some]
      exact ih below

/-- Nothing is found inside of what has no entries. -/
theorem find?_cons_of_empty (empty : branch.inside = .empty) (name : String) (rest : TreePath) :
    branch.find? (name :: rest) = none := by
  rw [find?, empty]
  rfl

/-- Where nothing is inside of what is replaced, no other node changes. The induction is on the
path to the directory. -/
theorem node_find?_put (found : branch.find? path = some place)
    (leaf : ∀ child, place.inside.child? name = some child → child.inside = .empty)
    (different : other ≠ path ++ [name]) :
    ((branch.put node (path ++ [name])).find? other).map Branch.node =
      (branch.find? other).map Branch.node := by
  induction path generalizing branch other with
  | nil =>
      obtain rfl : branch = place := Option.some.inj found
      cases other with
      | nil => rfl
      | cons first rest =>
          by_cases same : first = name
          · subst same
            -- The path goes on inside of the entry, where nothing was and nothing is.
            have inside : rest ≠ [] := fun none => different (congrArg (first :: ·) none)
            obtain ⟨next, rest, rfl⟩ := List.exists_cons_of_ne_nil inside
            have before : branch.find? (first :: next :: rest) = none := by
              rw [find?]
              cases entered : branch.inside.child? first with
              | none => rfl
              | some child => exact find?_cons_of_empty (leaf child entered) next rest
            rw [before, List.nil_append, put, find?, FileTree.child?_setChild_self]
            rfl
          · simp only [List.nil_append, put, find?, FileTree.child?_setChild_of_ne same]
  | cons step path ih =>
      obtain ⟨child, entered, below⟩ := Option.bind_eq_some_iff.mp found
      cases other with
      | nil => rfl
      | cons first rest =>
          by_cases same : first = step
          · subst same
            have further : rest ≠ path ++ [name] := fun equal => different (congrArg (first :: ·) equal)
            simp only [List.cons_append, put, find?, entered, Option.getD_some,
              FileTree.child?_setChild_self, Option.bind_some]
            exact ih below further
          · simp only [List.cons_append, put, find?, FileTree.child?_setChild_of_ne same]

/-- Where no directory is replaced, all directories remain. -/
theorem directory_put (found : branch.find? path = some place)
    (leaf : ∀ child, place.inside.child? name = some child → child.IsLeaf) {inside : FileTree}
    (directory : branch.find? other = some ⟨.directory, inside⟩) :
    ∃ changed, (branch.put node (path ++ [name])).find? other = some ⟨.directory, changed⟩ := by
  have different : other ≠ path ++ [name] := by
    rintro rfl
    rw [find?_concat found] at directory
    exact (leaf _ directory).node_ne rfl
  have kept : ((branch.put node (path ++ [name])).find? other).map Branch.node =
      (branch.find? other).map Branch.node :=
    node_find?_put found (fun child entry => (leaf child entry).inside_eq) different
  rw [directory] at kept
  obtain ⟨after, arrived, named⟩ := Option.map_eq_some_iff.mp kept
  exact ⟨after.inside, arrived.trans (congrArg some (eq_of_node named))⟩

end Branch

end CurveForge
