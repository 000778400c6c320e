import Mathlib
import CurveForge.Proofs.Checked
import CurveForge.Proofs.Storage.FileTree
import CurveForge.Storage.TreeStorage

/-!
# Walks in a changing tree

A walk depends on the directories of a tree and on nothing else. As long as they
remain, a written path leads to the same directory, also if it goes up or comes by
a place more than once.
-/

namespace CurveForge

namespace Place

variable {tree changed : FileTree} {place next other : Place} {step : String}

/-- The places of a tree: the top, and what is inside of a directory at another place. -/
inductive Within (tree : FileTree) : Place → Prop where
  | top : Within tree (top tree)
  | entered {inside : FileTree} {above : List (String × FileTree)} {name : String}
      {branch : Branch} (outer : Within tree ⟨inside.top, above⟩)
      (found : inside.child? name = some branch) : Within tree ⟨branch, (name, inside) :: above⟩

/-- The path of a place leads to it. -/
theorem Within.find?_path (within : Within tree place) :
    tree.top.find? place.path = some place.branch := by
  induction within with
  | top => rfl
  | @entered inside above name branch _ found ih =>
      have path : path ⟨branch, (name, inside) :: above⟩ = path ⟨inside.top, above⟩ ++ [name] := by
        simp [Place.path]
      rw [path, Branch.find?_concat ih]
      exact found

theorem Within.outside (within : Within tree place) : Within tree place.outside := by
  cases within with
  | top => exact .top
  | entered outer _ => exact outer

theorem path_outside (place : Place) : place.outside.path = place.path.dropLast := by
  obtain ⟨branch, above⟩ := place
  cases above with
  | nil => rfl
  | cons entry above => simp [Place.outside, Place.path]

theorem node_outside (directory : place.branch.node = .directory) :
    place.outside.branch.node = .directory := by
  obtain ⟨branch, above⟩ := place
  cases above with
  | nil => exact directory
  | cons entry above => rfl

inductive Entered (place : Place) (step : String) : Place → Prop where
  | stay (dot : step = ".") : Entered place step place
  | up (other : step ≠ ".") (dots : step = "..") : Entered place step place.outside
  | down {branch : Branch} (other : step ≠ ".") (further : step ≠ "..")
      (fits : step.utf8ByteSize ≤ TreePath.longestName)
      (found : place.branch.inside.child? step = some branch) :
      Entered place step ⟨branch, (step, place.branch.inside) :: place.above⟩

theorem lookup_eq_ok_iff {name : String} {result : Option Branch} :
    lookup tree name = .ok result ↔
      name.utf8ByteSize ≤ TreePath.longestName ∧ tree.child? name = result := by
  unfold lookup
  split
  · simp [*]
  · simp [Nat.not_lt.mp ‹_›]

theorem directory_eq_ok_iff {inside : FileTree} :
    place.directory = .ok inside ↔ place.branch = inside.top := by
  obtain ⟨⟨node, entries⟩, above⟩ := place
  cases node <;> simp [directory, FileTree.top]

/-- A step is possible in a directory only, and goes where it says. -/
theorem enter_eq_ok_iff :
    place.enter step = .ok next ↔
      place.branch.node = .directory ∧ Entered place step next := by
  unfold enter
  rw [Checked.bind_eq_ok_iff]
  constructor
  · rintro ⟨inside, opened, stepped⟩
    have branch := directory_eq_ok_iff.mp opened
    have entries : place.branch.inside = inside := congrArg Branch.inside branch
    refine ⟨congrArg Branch.node branch, ?_⟩
    split at stepped
    · next dot =>
        cases stepped
        exact .stay dot
    · next other =>
        split at stepped
        · next dots =>
            cases stepped
            exact .up other dots
        · next further =>
            obtain ⟨result, found, stepped⟩ := Checked.bind_eq_ok_iff.mp stepped
            obtain ⟨fits, child⟩ := lookup_eq_ok_iff.mp found
            cases result with
            | none => cases stepped
            | some branch =>
                cases stepped
                subst entries
                exact .down other further fits child
  · rintro ⟨node, entered⟩
    refine ⟨place.branch.inside, directory_eq_ok_iff.mpr (Branch.eq_of_node node), ?_⟩
    cases entered with
    | stay dot => simp [dot, pure, Except.pure]
    | up other dots => simp [dots, pure, Except.pure]
    | down other further fits found =>
        have looked := lookup_eq_ok_iff.mpr ⟨fits, found⟩
        simp [other, further, looked, bind, Except.bind, pure, Except.pure]

theorem Within.enter (within : Within tree place) (stepped : place.enter step = .ok next) :
    Within tree next := by
  obtain ⟨node, entered⟩ := enter_eq_ok_iff.mp stepped
  cases entered with
  | stay _ => exact within
  | up _ _ => exact within.outside
  | down _ _ _ found =>
      obtain ⟨⟨_, inside⟩, above⟩ := place
      cases node
      exact .entered within found

theorem follow_cons (place : Place) (step : String) (rest : List String) :
    place.follow (step :: rest) = place.enter step >>= fun next => next.follow rest := rfl

theorem Within.follow {steps : List String} (within : Within tree place)
    (followed : place.follow steps = .ok next) : Within tree next := by
  induction steps generalizing place with
  | nil =>
      cases followed
      exact within
  | cons step rest ih =>
      rw [follow_cons, Checked.bind_eq_ok_iff] at followed
      obtain ⟨middle, entered, followed⟩ := followed
      exact ih (within.enter entered) followed

/-- A walk that ends in a directory goes through directories only. -/
theorem node_of_follow {steps : List String} (followed : place.follow steps = .ok next)
    (directory : next.branch.node = .directory) : place.branch.node = .directory := by
  cases steps with
  | nil =>
      cases followed
      exact directory
  | cons step rest =>
      rw [follow_cons, Checked.bind_eq_ok_iff] at followed
      obtain ⟨middle, entered, -⟩ := followed
      exact (enter_eq_ok_iff.mp entered).1

/-- The places of two trees that a path leads to, both of them directories. -/
structure Twins (tree changed : FileTree) (place other : Place) : Prop where
  within : Within tree place
  otherWithin : Within changed other
  path_eq : other.path = place.path
  directory : place.branch.node = .directory
  otherDirectory : other.branch.node = .directory

/-- Every directory of a tree is a directory in another one. -/
def DirectoriesRemain (tree changed : FileTree) : Prop :=
  ∀ path inside, tree.top.find? path = some ⟨.directory, inside⟩ →
    ∃ entries, changed.top.find? path = some ⟨.directory, entries⟩

/-- One step of the same walk in both trees. -/
theorem Twins.enter (twins : Twins tree changed place other)
    (remain : DirectoriesRemain tree changed) (stepped : place.enter step = .ok next)
    (directory : next.branch.node = .directory) :
    ∃ otherNext, other.enter step = .ok otherNext ∧ Twins tree changed next otherNext := by
  have within := twins.within.enter stepped
  obtain ⟨-, entered⟩ := enter_eq_ok_iff.mp stepped
  cases entered with
  | stay dot =>
      exact ⟨other, enter_eq_ok_iff.mpr ⟨twins.otherDirectory, .stay dot⟩, twins⟩
  | up further dots =>
      have path : other.outside.path = place.outside.path := by
        rw [path_outside, path_outside, twins.path_eq]
      exact ⟨other.outside, enter_eq_ok_iff.mpr ⟨twins.otherDirectory, .up further dots⟩, within,
        twins.otherWithin.outside, path, directory, node_outside twins.otherDirectory⟩
  | @down branch further again fits found =>
      have target : tree.top.find? (place.path ++ [step]) = some ⟨.directory, branch.inside⟩ := by
        rw [Branch.find?_concat twins.within.find?_path, found]
        exact congrArg some (Branch.eq_of_node directory)
      obtain ⟨entries, remains⟩ := remain _ _ target
      rw [← twins.path_eq, Branch.find?_concat twins.otherWithin.find?_path] at remains
      have stepped := enter_eq_ok_iff.mpr
        ⟨twins.otherDirectory, Entered.down further again fits remains⟩
      have path := twins.path_eq
      refine ⟨_, stepped, within, twins.otherWithin.enter stepped, ?_, directory, rfl⟩
      simp only [Place.path, List.map_cons, List.reverse_cons] at path ⊢
      rw [path]

/-- A walk that ends in a directory can be repeated where all directories remain. -/
theorem Twins.follow {steps : List String} (twins : Twins tree changed place other)
    (remain : DirectoriesRemain tree changed) (followed : place.follow steps = .ok next)
    (directory : next.branch.node = .directory) :
    ∃ otherNext, other.follow steps = .ok otherNext ∧ Twins tree changed next otherNext := by
  induction steps generalizing place other with
  | nil =>
      cases followed
      exact ⟨other, rfl, twins⟩
  | cons step rest ih =>
      rw [follow_cons, Checked.bind_eq_ok_iff] at followed
      obtain ⟨middle, entered, followed⟩ := followed
      obtain ⟨otherMiddle, otherEntered, twins⟩ :=
        twins.enter remain entered (node_of_follow followed directory)
      obtain ⟨last, otherFollowed, twins⟩ := ih twins followed
      exact ⟨last, Checked.bind_eq_ok_iff.mpr ⟨otherMiddle, otherEntered, otherFollowed⟩, twins⟩

theorem twins_top (tree changed : FileTree) : Twins tree changed (top tree) (top changed) :=
  ⟨.top, .top, rfl, rfl, rfl⟩

end Place

end CurveForge
