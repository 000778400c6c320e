import Mathlib
import CurveForge.Proofs.Storage.Place
import CurveForge.Sink.Directory

/-!
# Files inside a directory

A file that is written to a name inside a directory becomes the entry of the
directory with that name; the other entries stay, and so does everything else in
the tree. Preparing a directory that is there changes nothing.
-/

namespace CurveForge

namespace TreePath

structure IsName (name : String) : Prop where
  slashless : '/' ∉ name.toList
  nonempty : name ≠ ""
  not_dot : name ≠ "."
  not_dots : name ≠ ".."

theorem pieces_ne_nil (text : List Char) : pieces text ≠ [] := by
  cases text with
  | nil => exact List.cons_ne_nil _ _
  | cons c rest =>
      unfold pieces
      split
      · exact List.cons_ne_nil _ _
      · cases pieces rest <;> exact List.cons_ne_nil _ _

theorem pushFront_append (c : Char) {front : List (List Char)} (nonempty : front ≠ [])
    (rest : List (List Char)) : pushFront c (front ++ rest) = pushFront c front ++ rest := by
  cases front with
  | nil => exact absurd rfl nonempty
  | cons piece front => rfl

/-- A slash separates the pieces before it from those behind it. -/
theorem pieces_append (front rest : List Char) :
    pieces (front ++ '/' :: rest) = pieces front ++ pieces rest := by
  induction front with
  | nil => rfl
  | cons c front ih =>
      rw [List.cons_append, pieces, pieces, ih]
      split
      · rfl
      · exact pushFront_append c (pieces_ne_nil front) _

theorem pieces_of_slashless {text : List Char} (slashless : '/' ∉ text) : pieces text = [text] := by
  induction text with
  | nil => rfl
  | cons c rest ih =>
      obtain ⟨other, later⟩ := List.ne_and_not_mem_of_not_mem_cons slashless
      rw [pieces, if_neg (Ne.symm other), ih later]
      rfl

variable {name : String}

theorem steps_of_slashless (slashless : '/' ∉ name.toList) (nonempty : name ≠ "") :
    steps name = [name] := by
  simp [steps, pieces_of_slashless slashless, nonempty]

/-- The steps of a name inside a directory. -/
theorem steps_joinPath (dir : String) (slashless : '/' ∉ name.toList) (nonempty : name ≠ "") :
    steps (joinPath dir name) = steps dir ++ [name] := by
  have behind (front : List Char) (path : String)
      (spelled : path.toList = front ++ '/' :: name.toList) :
      steps path = ((pieces front).map String.ofList).filter (· != "") ++ [name] := by
    simp [steps, spelled, pieces_append, pieces_of_slashless slashless, nonempty]
  have first : name.toList.head? ≠ some '/' := fun head => slashless (List.mem_of_head? head)
  unfold joinPath
  rw [if_neg first]
  split
  · next ends =>
      rcases Bool.or_eq_true .. |>.mp ends with empty | slash
      · have none : dir = "" := String.isEmpty_iff.mp empty
        rw [none, String.empty_append, steps_of_slashless slashless nonempty]
        rfl
      · obtain ⟨front, spelled⟩ := List.getLast?_eq_some_iff.mp (of_decide_eq_true slash)
        have inside : (dir ++ name).toList = front ++ '/' :: name.toList := by
          simp [spelled]
        have around : steps dir = ((pieces front).map String.ofList).filter (· != "") := by
          rw [steps, spelled, pieces_append]
          simp [pieces]
        rw [behind front _ inside, around]
  · rw [behind dir.toList (dir ++ "/" ++ name) (by simp)]
    rfl

theorem walk_eq_ok {path : String} {result : List String} (walked : walk path = .ok result) :
    result = steps path := by
  unfold walk at walked
  split at walked
  · cases walked
  split at walked
  · cases walked
  split at walked
  · cases walked
  exact (Except.ok.inj walked).symm

end TreePath

namespace Place

variable {tree inside : FileTree} {place : Place} {steps : List String} {name : String}

theorem top_put (tree : FileTree) (path : TreePath) (name : String) (node : FileNode) :
    (tree.put (path ++ [name]) node).top = tree.top.put node (path ++ [name]) := by
  cases path <;> rfl

/-- A walk to a directory leads to the same directory after a file has been put into it. -/
theorem follow_put (followed : (top tree).follow steps = .ok place)
    (branch : place.branch = inside.top)
    (leaf : ∀ child, inside.child? name = some child → child.IsLeaf) (node : FileNode) :
    ∃ after, (top (tree.put (place.path ++ [name]) node)).follow steps = .ok after ∧
      after.path = place.path ∧ after.branch = (inside.setChild name ⟨node, .empty⟩).top := by
  have found := (Within.follow .top followed).find?_path
  rw [branch] at found
  have remain : DirectoriesRemain tree (tree.put (place.path ++ [name]) node) := by
    intro path entries directory
    rw [top_put]
    exact Branch.directory_put found leaf directory
  have directory : place.branch.node = .directory := congrArg Branch.node branch
  obtain ⟨after, again, twins⟩ := (twins_top tree _).follow remain followed directory
  have changed := twins.otherWithin.find?_path
  rw [twins.path_eq, top_put, Branch.find?_put found] at changed
  exact ⟨after, again, twins.path_eq, (Option.some.inj changed).symm⟩

theorem path_of_target {step : String} {path : TreePath} {node? : Option FileNode}
    (targeted : place.target step = .ok (.entry path node?)) : path = place.path ++ [step] := by
  obtain ⟨entries, -, targeted⟩ := Checked.bind_eq_ok_iff.mp targeted
  split at targeted
  · cases targeted
  · obtain ⟨found, -, targeted⟩ := Checked.bind_eq_ok_iff.mp targeted
    cases targeted
    rfl

end Place

namespace FileTree

variable {tree after last inside : FileTree} {dir name text : String} {home : TreePath}

/-- A written path leads to a directory with the given entries. -/
def Holds (tree : FileTree) (dir : String) (inside : FileTree) : Prop :=
  ∃ place, (Place.top tree).follow (TreePath.steps dir) = .ok place ∧ place.branch = inside.top

/-- A written path leads to a directory at a path of the tree, with the given entries. -/
def HoldsAt (tree : FileTree) (dir : String) (home : TreePath) (inside : FileTree) : Prop :=
  ∃ place, (Place.top tree).follow (TreePath.steps dir) = .ok place ∧ place.path = home ∧
    place.branch = inside.top

theorem Holds.exists_at (holds : tree.Holds dir inside) : ∃ home, tree.HoldsAt dir home inside := by
  obtain ⟨place, followed, branch⟩ := holds
  exact ⟨place.path, place, followed, rfl, branch⟩

theorem HoldsAt.holds (holds : tree.HoldsAt dir home inside) : tree.Holds dir inside := by
  obtain ⟨place, followed, -, branch⟩ := holds
  exact ⟨place, followed, branch⟩

theorem HoldsAt.find?_home (holds : tree.HoldsAt dir home inside) :
    tree.top.find? home = some inside.top := by
  obtain ⟨place, followed, rfl, branch⟩ := holds
  rw [← branch]
  exact (Place.Within.follow .top followed).find?_path

/-- The entries of the directory are the nodes below its path. -/
theorem HoldsAt.node?_entry (holds : tree.HoldsAt dir home inside) (name : String) :
    tree.node? (home ++ [name]) = (inside.child? name).map Branch.node := by
  rw [node?, Branch.find?_concat holds.find?_home]
  rfl

/-- The entry with a name, if there is one, is a file. -/
def FreeFor (inside : FileTree) (name : String) : Prop :=
  ∀ child, inside.child? name = some child → ∃ text, child = ⟨.file text, .empty⟩

theorem FreeFor.isLeaf (free : inside.FreeFor name) :
    ∀ child, inside.child? name = some child → child.IsLeaf := by
  intro child found
  obtain ⟨text, rfl⟩ := free child found
  exact ⟨nofun, rfl⟩

theorem freeFor_setChild (inside : FileTree) (name text : String) :
    (inside.setChild name ⟨.file text, .empty⟩).FreeFor name := by
  intro child found
  rw [child?_setChild_self] at found
  exact ⟨text, (Option.some.inj found).symm⟩

/-- Every entry is a directory or a file: there are no links among them. -/
def Plain (inside : FileTree) : Prop :=
  ∀ name child, inside.child? name = some child →
    child.node = .directory ∨ ∃ text, child = ⟨.file text, .empty⟩

theorem plain_empty : Plain .empty := nofun

theorem Plain.entry {node : FileNode} {below : FileTree}
    (first : node = .directory ∨ ∃ text, (⟨node, below⟩ : Branch) = ⟨.file text, .empty⟩)
    (others : inside.Plain) (name : String) : Plain (.entry name node below inside) := by
  intro other child found
  rw [child?] at found
  split at found
  · cases found
    exact first
  · exact others other child found

theorem Plain.setChild (plain : inside.Plain) (name text : String) :
    (inside.setChild name ⟨.file text, .empty⟩).Plain := by
  intro other child found
  by_cases same : other = name
  · subst same
    exact .inr (freeFor_setChild inside other text child found)
  · rw [child?_setChild_of_ne same] at found
    exact plain other child found

/-- What paths lead to is the same in both trees, some paths excepted. -/
def SameExcept (tree after : FileTree) (changed : Set TreePath) : Prop :=
  ∀ path ∉ changed, after.node? path = tree.node? path

theorem SameExcept.refl (tree : FileTree) (changed : Set TreePath) :
    tree.SameExcept tree changed := fun _ _ => rfl

theorem SameExcept.trans {first second : Set TreePath} (earlier : tree.SameExcept after first)
    (later : after.SameExcept last second) : tree.SameExcept last (first ∪ second) := by
  intro path other
  rw [Set.mem_union, not_or] at other
  exact (later path other.2).trans (earlier path other.1)

theorem SameExcept.mono {few many : Set TreePath} (same : tree.SameExcept after few)
    (more : few ⊆ many) : tree.SameExcept after many :=
  fun path other => same path fun member => other (more member)

/-! ## Files that are written -/

/-- Putting a file into a directory sets the entry with its name and changes nothing else. -/
theorem HoldsAt.put (holds : tree.HoldsAt dir home inside) (free : inside.FreeFor name)
    (text : String) :
    (tree.put (home ++ [name]) (.file text)).HoldsAt dir home
        (inside.setChild name ⟨.file text, .empty⟩) ∧
      tree.SameExcept (tree.put (home ++ [name]) (.file text)) {home ++ [name]} := by
  have found := holds.find?_home
  obtain ⟨place, followed, rfl, branch⟩ := holds
  refine ⟨Place.follow_put followed branch free.isLeaf (.file text), fun path other => ?_⟩
  rw [node?, Place.top_put]
  exact Branch.node_find?_put found (fun child entry => (free.isLeaf child entry).inside_eq) other

/-- The last step of the path of a name inside a directory is the entry with that name. -/
theorem target_joinPath (holds : tree.HoldsAt dir home inside) (named : TreePath.IsName name)
    {target : Place.Target} (targeted : tree.target (joinPath dir name) = .ok target) :
    target = .entry (home ++ [name]) ((inside.child? name).map Branch.node) := by
  obtain ⟨place, followed, rfl, branch⟩ := holds
  obtain ⟨steps, walked, targeted⟩ := Checked.bind_eq_ok_iff.mp targeted
  cases TreePath.walk_eq_ok walked
  rw [TreePath.steps_joinPath dir named.slashless named.nonempty, List.dropLast_concat,
    List.getLastD_concat, followed] at targeted
  obtain ⟨entries, opens, targeted⟩ :=
    Checked.bind_eq_ok_iff.mp (show place.target name = .ok target from targeted)
  cases branch.symm.trans (Place.directory_eq_ok_iff.mp opens)
  simp only [named.not_dot, named.not_dots, decide_false, Bool.or_self, Bool.false_eq_true,
    if_false] at targeted
  obtain ⟨found, looked, targeted⟩ := Checked.bind_eq_ok_iff.mp targeted
  obtain ⟨-, child⟩ := Place.lookup_eq_ok_iff.mp looked
  subst child
  cases targeted
  rfl

/-- A file that can be opened in a directory without links is no directory, and it is emptied. -/
theorem openFile_joinPath (holds : tree.HoldsAt dir home inside) (named : TreePath.IsName name)
    (plain : inside.Plain) {path : TreePath} {opened : FileTree}
    (result : tree.openFile (joinPath dir name) = .ok (path, opened)) :
    inside.FreeFor name ∧ path = home ++ [name] ∧ opened = tree.put path (.file "") := by
  obtain ⟨target, targeted, result⟩ := Checked.bind_eq_ok_iff.mp result
  cases target_joinPath holds named targeted
  unfold FreeFor
  cases found : inside.child? name with
  | none =>
      rw [found] at result
      cases result
      exact ⟨nofun, rfl, rfl⟩
  | some entry =>
      rw [found] at result
      rcases plain name entry found with directory | ⟨text, rfl⟩
      · rw [Option.map_some, directory] at result
        cases result
      · cases result
        exact ⟨fun child same => ⟨text, (Option.some.inj same).symm⟩, rfl, rfl⟩

/-- A write in a directory without links fails and changes nothing, or it empties the file and
leaves some text there, which is the one to be written unless the write fails. -/
theorem write_joinPath (holds : tree.HoldsAt dir home inside) (named : TreePath.IsName name)
    (plain : inside.Plain) (mishap? : Option Mishap) (text : String) :
    (∃ failure, tree.write mishap? (joinPath dir name) text = (.error failure, tree)) ∨
      inside.FreeFor name ∧ ∃ left answer, (answer = .ok () → left = text) ∧
        tree.write mishap? (joinPath dir name) text =
          (answer, (tree.put (home ++ [name]) (.file "")).put (home ++ [name]) (.file left)) := by
  unfold write
  cases result : tree.openFile (joinPath dir name) with
  | error reason => exact .inl ⟨_, rfl⟩
  | ok found =>
      obtain ⟨path, opened⟩ := found
      obtain ⟨free, rfl, rfl⟩ := openFile_joinPath holds named plain result
      have emptied := (holds.put free "").1.node?_entry name
      rw [child?_setChild_self] at emptied
      cases mishap? with
      | none =>
          refine .inr ⟨free, text, .ok (), fun _ => rfl, ?_⟩
          simp only [store, emptied, Option.map_some]
      | some mishap =>
          cases mishap with
          | unopened reason => exact .inl ⟨_, rfl⟩
          | brokenOff left late reason =>
              refine .inr ⟨free, left, .error (if late then .outside reason else
                .ofStoring text reason), nofun, ?_⟩
              simp only [breakOff, emptied, Option.map_some]

theorem HoldsAt.put_put (holds : tree.HoldsAt dir home inside) (free : inside.FreeFor name)
    (first text : String) :
    ((tree.put (home ++ [name]) (.file first)).put (home ++ [name]) (.file text)).HoldsAt dir home
        (inside.setChild name ⟨.file text, .empty⟩) ∧
      tree.SameExcept ((tree.put (home ++ [name]) (.file first)).put (home ++ [name]) (.file text))
        {home ++ [name]} := by
  obtain ⟨emptied, before⟩ := holds.put free first
  obtain ⟨filled, behind⟩ := emptied.put (freeFor_setChild inside name first) text
  rw [setChild_setChild] at filled
  have same := before.trans behind
  rw [Set.union_self] at same
  exact ⟨filled, same⟩

/-- A file that is written in a directory without links becomes the entry with its name. -/
theorem holdsAt_of_write (holds : tree.HoldsAt dir home inside) (named : TreePath.IsName name)
    (plain : inside.Plain) {mishap? : Option Mishap}
    (written : tree.write mishap? (joinPath dir name) text = (.ok (), after)) :
    after.HoldsAt dir home (inside.setChild name ⟨.file text, .empty⟩) := by
  rcases write_joinPath holds named plain mishap? text with
    ⟨failure, refused⟩ | ⟨free, left, answer, whole, left_eq⟩
  · cases written.symm.trans refused
  · cases written.symm.trans left_eq
    rw [whole rfl]
    exact (holds.put_put free "" text).1

/-- However a write in a directory without links ends, nothing but its file changes. -/
theorem sameExcept_write (holds : tree.HoldsAt dir home inside) (named : TreePath.IsName name)
    (plain : inside.Plain) (mishap? : Option Mishap) (text : String) :
    tree.SameExcept (tree.write mishap? (joinPath dir name) text).2 {home ++ [name]} := by
  rcases write_joinPath holds named plain mishap? text with
    ⟨failure, refused⟩ | ⟨free, left, answer, -, left_eq⟩
  · rw [refused]
    exact .refl tree _
  · rw [left_eq]
    exact (holds.put_put free "" left).2

/-- A file can be opened below the top only. -/
theorem exists_concat_of_openFile {path : String} {place : TreePath} {opened : FileTree}
    (result : tree.openFile path = .ok (place, opened)) : ∃ home name, place = home ++ [name] := by
  obtain ⟨target, targeted, result⟩ := Checked.bind_eq_ok_iff.mp result
  obtain ⟨steps, -, targeted⟩ := Checked.bind_eq_ok_iff.mp targeted
  obtain ⟨around, -, targeted⟩ := Checked.bind_eq_ok_iff.mp targeted
  cases target with
  | dots => cases result
  | entry path node? =>
      have located := Place.path_of_target targeted
      cases node? with
      | none =>
          cases result
          exact ⟨_, _, located⟩
      | some node => cases node <;> cases result <;> exact ⟨_, _, located⟩

/-- A text that is not empty and could be written is that of the file. -/
theorem node?_of_write {path : String} {mishap? : Option Mishap} (nonempty : text.isEmpty = false)
    (written : tree.write mishap? path text = (.ok (), after)) :
    ∃ place opened, tree.openFile path = .ok (place, opened) ∧
      after.node? place = some (.file text) := by
  unfold write at written
  split at written
  · cases written
  · cases written
  · cases written
  · next place opened result =>
      obtain ⟨home, name, rfl⟩ := exists_concat_of_openFile result
      refine ⟨home ++ [name], opened, result, ?_⟩
      unfold store at written
      split at written
      · simp only [nonempty, Bool.false_eq_true, if_false] at written
        cases written
      · cases written
        rw [node?, Place.top_put, Branch.find?_put_self]
        rfl

end FileTree

/-! ## Directories that are there -/

namespace Place

inductive Target.Standing : Target → Prop where
  | dots : Standing .dots
  | directory (path : TreePath) : Standing (.entry path (some .directory))

/-- The last step into a directory names it or stays in one. -/
theorem target_of_enter {place next : Place} {step : String} (stepped : place.enter step = .ok next)
    (directory : next.branch.node = .directory) :
    ∃ target, place.target step = .ok target ∧ target.Standing := by
  obtain ⟨node, entered⟩ := enter_eq_ok_iff.mp stepped
  unfold target
  rw [directory_eq_ok_iff.mpr (Branch.eq_of_node node)]
  cases entered with
  | stay dot => exact ⟨.dots, by simp [dot, bind, Except.bind, pure, Except.pure], .dots⟩
  | up _ dots => exact ⟨.dots, by simp [dots, bind, Except.bind, pure, Except.pure], .dots⟩
  | @down branch other further fits found =>
      have looked := lookup_eq_ok_iff.mpr ⟨fits, found⟩
      have named : branch.node = .directory := directory
      refine ⟨_, ?_, .directory (place.path ++ [step])⟩
      simp [other, further, looked, named, bind, Except.bind, pure, Except.pure]

end Place

namespace FileTree

variable {tree inside : FileTree} {dir : String}

theorem target_of_holds (holds : tree.Holds dir inside) {steps : List String}
    (walked : TreePath.walk dir = .ok steps) :
    ∃ target, tree.target dir = .ok target ∧ target.Standing := by
  obtain ⟨place, followed, branch⟩ := holds
  cases TreePath.walk_eq_ok walked
  unfold target
  rw [walked]
  change ∃ target, ((Place.top tree).follow (TreePath.steps dir).dropLast >>= fun place =>
    place.target ((TreePath.steps dir).getLastD ".")) = .ok target ∧ target.Standing
  rcases List.eq_nil_or_concat' (TreePath.steps dir) with none | ⟨front, last, spelled⟩
  · rw [none]
    exact ⟨.dots, rfl, .dots⟩
  · rw [spelled] at followed ⊢
    rw [Place.follow, List.foldlM_append, Checked.bind_eq_ok_iff] at followed
    obtain ⟨middle, before, followed⟩ := followed
    obtain ⟨next, stepped, same⟩ := Checked.bind_eq_ok_iff.mp followed
    cases same
    rw [List.dropLast_concat, List.getLastD_concat, Place.follow, before]
    exact Place.target_of_enter stepped (congrArg Branch.node branch)

theorem createDirectory_of_holds (holds : tree.Holds dir inside) {steps : List String}
    (walked : TreePath.walk dir = .ok steps) :
    tree.createDirectory dir = .error .alreadyExists := by
  obtain ⟨target, targeted, standing⟩ := target_of_holds holds walked
  unfold createDirectory
  rw [targeted]
  cases standing with
  | dots => rfl
  | directory path => rfl

theorem isDirectory_of_holds (holds : tree.Holds dir inside) {steps : List String}
    (walked : TreePath.walk dir = .ok steps) : tree.isDirectory dir = true := by
  obtain ⟨place, followed, branch⟩ := holds
  cases TreePath.walk_eq_ok walked
  have located : tree.locate dir = .ok place := by
    rw [locate, walked]
    exact followed
  unfold isDirectory
  simp [located, branch, top]

end FileTree

section Attempts

variable {ε σ α : Type} {x : ExceptT ε (StateM σ) α} {handler : ε → ExceptT ε (StateM σ) α}
  {s t : σ}

theorem run_tryCatch_of_done {value : α} (done : x.run.run s = (.ok value, t)) :
    (tryCatch x handler).run.run s = (.ok value, t) := by
  change (ExceptT.tryCatch x handler).run.run s = _
  rw [ExceptT.tryCatch, ExceptT.run_mk]
  change (x.run >>= _ : StateM σ (Except ε α)).run s = _
  rw [StateT.run_bind, done]
  rfl

theorem run_tryCatch_of_refused {reason : ε} (refused : x.run.run s = (.error reason, t)) :
    (tryCatch x handler).run.run s = (handler reason).run.run t := by
  change (ExceptT.tryCatch x handler).run.run s = _
  rw [ExceptT.tryCatch, ExceptT.run_mk]
  change (x.run >>= _ : StateM σ (Except ε α)).run s = _
  rw [StateT.run_bind, refused]
  rfl

end Attempts

namespace Medium

open FileTree

variable {σ : Type} {medium : Medium σ} {s : σ} {inside : FileTree} {dir : String}
  {reason : StorageFailure}

/-- A directory that cannot be made is accepted if it is there. -/
theorem run_ensureDirectory (failed : (medium.tree s).createDirectory dir = .error reason) :
    (medium.storage.ensureDirectory dir).run.run s =
      (if (medium.tree s).isDirectory dir then .ok () else .error reason, s) := by
  have refused : (ExceptT.mk (medium.storage.createDirectory dir)).run.run s =
      (.error reason, s) := by
    change medium.storage.createDirectory dir s = _
    simp only [storage, failed]
  rw [Storage.ensureDirectory, run_tryCatch_of_refused refused]
  change (if !(medium.tree s).isDirectory dir then throw reason else pure () :
    ExceptT StorageFailure (StateM σ) Unit).run.run s = _
  cases (medium.tree s).isDirectory dir with
  | true => rfl
  | false => rfl

/-- Making a directory that is there does nothing, or refuses the text of its path. -/
theorem ensureDirectory_of_holds (holds : (medium.tree s).Holds dir inside)
    (nonempty : dir.isEmpty = false) :
    (medium.storage.ensureDirectory dir).run.run s = (.ok (), s) ∨
      ∃ reason ≠ .notFound,
        (medium.storage.ensureDirectory dir).run.run s = (.error reason, s) := by
  cases walked : TreePath.walk dir with
  | error reason =>
      have created : (medium.tree s).createDirectory dir = .error reason := by
        rw [createDirectory, target, walked]
        rfl
      have missing : (medium.tree s).isDirectory dir = false := by
        rw [isDirectory, locate, walked]
        rfl
      have other : reason ≠ .notFound := by
        rintro rfl
        simp only [TreePath.walk, nonempty, Bool.false_eq_true, if_false] at walked
        split at walked
        · cases walked
        split at walked <;> cases walked
      refine .inr ⟨reason, other, ?_⟩
      rw [run_ensureDirectory created, missing]
      rfl
  | ok steps =>
      left
      rw [run_ensureDirectory (createDirectory_of_holds holds walked),
        isDirectory_of_holds holds walked]
      rfl

/-- Preparing a directory that is there changes nothing. -/
theorem prepare_of_holds (holds : (medium.tree s).Holds dir inside) :
    ((Directory.prepare medium.storage dir).run.run s).2 = s := by
  have kept : ((medium.storage.createDirectories dir).run.run s).2 = s := by
    unfold Storage.createDirectories
    cases nonempty : dir.isEmpty with
    | true => rfl
    | false =>
        simp only [Bool.false_eq_true, if_false, Storage.ensureFirst]
        rcases ensureDirectory_of_holds holds nonempty with done | ⟨reason, other, refused⟩
        · rw [run_tryCatch_of_done done]
        · rw [run_tryCatch_of_refused refused]
          simp only [other, ne_eq, not_false_eq_true, if_true]
          rfl
  exact kept

end Medium

end CurveForge
