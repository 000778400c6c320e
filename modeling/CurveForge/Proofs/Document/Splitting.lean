import Mathlib
import CurveForge.Proofs.Casteljau
import CurveForge.Proofs.Document.SplittingText

/-!
# Running the body of a split

Whatever the operators mean, the program of a split computes the triangle of the
control points and answers its edges. Names of intermediate points are small
letters, so no point is lost if no control point is named by one.
-/

namespace CurveForge

open Reading

section Points

variable {α : Type}

/-- A point on a line is a number, and any other point is the list of its components. -/
def Dimension.value : (d : Dimension) → (Fin d.number → α) → Value α
  | .one, point => .scalar (point (0 : Fin 1))
  | .two, point => .vector (List.ofFn (n := 2) point)
  | .three, point => .vector (List.ofFn (n := 3) point)

def Reading.Operations.blend (operations : Operations α) (t : α) {k : Nat} (a b : Fin k → α) :
    Fin k → α :=
  fun i => operations.add (a i) (operations.mul (operations.sub (b i) (a i)) t)

end Points

namespace PointBinding

variable {α : Type} {operations : Operations α} {store : Store α} {t : α} {d : Dimension}

/-- The value of a blend of expressions with values. -/
theorem evaluate_blend {first second : Expression} {a b : α}
    (parameter : store "t" = some (.scalar t))
    (firstValue : first.evaluate operations store = some a)
    (secondValue : second.evaluate operations store = some b) :
    (blend first second).evaluate operations store =
      some (operations.add a (operations.mul (operations.sub b a) t)) := by
  have factor : (Expression.variable "t").evaluate operations store = some t := by
    rw [Expression.evaluate, parameter]
    rfl
  have difference : (Expression.difference second first).evaluate operations store =
      some (operations.sub b a) := by
    rw [Expression.evaluate, secondValue, firstValue]
    rfl
  have product : (Expression.product (.difference second first) (.variable "t")).evaluate
      operations store = some (operations.mul (operations.sub b a) t) := by
    rw [Expression.evaluate, difference, factor]
    rfl
  rw [blend, Expression.evaluate, firstValue, product]
  rfl

theorem evaluate_definition (b : PointBinding) {first second : Fin d.number → α}
    (parameter : store "t" = some (.scalar t)) (firstBound : store b.first = some (d.value first))
    (secondBound : store b.second = some (d.value second)) :
    (b.definition d).evaluate operations store =
      some (d.value (operations.blend t first second)) := by
  have component (field : String) (x y : α)
      (firstValue : (d.value first).component? field = some x)
      (secondValue : (d.value second).component? field = some y) :
      (blend (.component b.first field) (.component b.second field)).evaluate operations store =
        some (operations.add x (operations.mul (operations.sub y x) t)) := by
    refine evaluate_blend parameter ?_ ?_
    · rw [Expression.evaluate, firstBound, Option.bind_some, firstValue]
    · rw [Expression.evaluate, secondBound, Option.bind_some, secondValue]
  cases d with
  | one =>
      have firstValue : (Expression.variable b.first).evaluate operations store =
          some (first (0 : Fin 1)) := by
        rw [Expression.evaluate, firstBound]
        rfl
      have secondValue : (Expression.variable b.second).evaluate operations store =
          some (second (0 : Fin 1)) := by
        rw [Expression.evaluate, secondBound]
        rfl
      exact congrArg (Option.map Value.scalar) (evaluate_blend parameter firstValue secondValue)
  | two =>
      have x := component "x" (first (0 : Fin 2)) (second (0 : Fin 2)) rfl rfl
      have y := component "y" (first (1 : Fin 2)) (second (1 : Fin 2)) rfl rfl
      simp only [definition, Dimension.vector?, Definition.evaluate, Dimension.components,
        List.map_cons, List.map_nil, List.mapM_cons, List.mapM_nil, x, y]
      rfl
  | three =>
      have x := component "x" (first (0 : Fin 3)) (second (0 : Fin 3)) rfl rfl
      have y := component "y" (first (1 : Fin 3)) (second (1 : Fin 3)) rfl rfl
      have z := component "z" (first (2 : Fin 3)) (second (2 : Fin 3)) rfl rfl
      simp only [definition, Dimension.vector?, Definition.evaluate, Dimension.components,
        List.map_cons, List.map_nil, List.mapM_cons, List.mapM_nil, x, y, z]
      rfl

def toStatement (d : Dimension) (b : PointBinding) : Statement := .define b.name (b.definition d)

/-- The store binds a name to a point. -/
def Binds (store : Store α) (d : Dimension) (name : String) (point : Fin d.number → α) : Prop :=
  store name = some (d.value point)

/-- The store binds both names of a binding, and the blend of their points is the result. -/
def Blends (operations : Operations α) (t : α) (store : Store α) (d : Dimension)
    (b : PointBinding) (result : Fin d.number → α) : Prop :=
  ∃ first second, Binds store d b.first first ∧ Binds store d b.second second ∧
    result = operations.blend t first second

variable {b : PointBinding} {result : Fin d.number → α} {control : List (Value α)}

theorem Blends.of_frame {later : Store α} (blends : Blends operations t store d b result)
    (first : later b.first = store b.first) (second : later b.second = store b.second) :
    Blends operations t later d b result := by
  obtain ⟨firstPoint, secondPoint, firstBound, secondBound, same⟩ := blends
  exact ⟨firstPoint, secondPoint, first.trans firstBound, second.trans secondBound, same⟩

/-- The statement of a binding binds its name to the blend. -/
theorem Blends.run (blends : Blends operations t store d b result)
    (parameter : store "t" = some (.scalar t)) :
    (b.toStatement d).run operations control store = some (store.bind b.name (d.value result)) := by
  obtain ⟨first, second, firstBound, secondBound, rfl⟩ := blends
  rw [toStatement, Statement.run, evaluate_definition b parameter firstBound secondBound,
    Option.map_some]

/-- Statements with fresh names define their blends and change nothing else. The induction is on the
statements; no later one reads or writes a name that is bound already. -/
theorem run_bindings {bindings : List PointBinding} {results : List (Fin d.number → α)}
    (parameter : store "t" = some (.scalar t))
    (blends : List.Forall₂ (Blends operations t store d) bindings results)
    (nodup : (bindings.map name).Nodup)
    (apart : ∀ b ∈ bindings, ∀ other ∈ bindings, other.first ≠ b.name ∧ other.second ≠ b.name)
    (reserved : ∀ b ∈ bindings, "t" ≠ b.name) :
    ∃ final, (bindings.map (toStatement d)).foldlM (Statement.run operations control) store =
        some final ∧
      List.Forall₂ (fun b result => Binds final d b.name result) bindings results ∧
      ∀ other ∉ bindings.map name, final other = store other := by
  induction bindings generalizing store results with
  | nil =>
      cases blends
      exact ⟨store, rfl, .nil, fun _ _ => rfl⟩
  | cons b bindings ih =>
      rcases blends with _ | @⟨_, result, _, results, blend, blends⟩
      obtain ⟨once, restNodup⟩ := List.nodup_cons.mp nodup
      have later : List.Forall₂ (Blends operations t (store.bind b.name (d.value result)) d)
          bindings results := by
        refine List.forall₂_iff_get.mpr ⟨blends.length_eq, ?_⟩
        intro i left right
        have member : bindings.get ⟨i, left⟩ ∈ b :: bindings :=
          List.mem_cons_of_mem _ (List.get_mem _ _)
        have differ := apart b List.mem_cons_self _ member
        exact (blends.get left right).of_frame (Store.bind_of_ne differ.1)
          (Store.bind_of_ne differ.2)
      have laterParameter : (store.bind b.name (d.value result)) "t" = some (.scalar t) := by
        rw [Store.bind_of_ne (reserved b List.mem_cons_self), parameter]
      obtain ⟨final, run, bound, frame⟩ := ih laterParameter later restNodup
        (fun c member other otherMember => apart c (List.mem_cons_of_mem _ member) other
          (List.mem_cons_of_mem _ otherMember))
        (fun c member => reserved c (List.mem_cons_of_mem _ member))
      refine ⟨final, ?_, .cons ?_ bound, ?_⟩
      · rw [List.map_cons, List.foldlM_cons, blend.run parameter]
        exact run
      · exact (frame b.name once).trans Store.bind_self
      · intro other absent
        rw [List.map_cons, List.mem_cons, not_or] at absent
        exact (frame other absent.2).trans (Store.bind_of_ne absent.1)

/-! ## Rows -/

section Rows

variable {level names supply : List String} {points : List (Fin d.number → α)}

theorem binds_of_frame {later : Store α} (bound : List.Forall₂ (Binds store d) level points)
    (frame : ∀ name ∈ level, later name = store name) :
    List.Forall₂ (Binds later d) level points := by
  refine List.forall₂_iff_get.mpr ⟨bound.length_eq, ?_⟩
  intro i left right
  exact (frame _ (List.get_mem _ _)).trans (bound.get left right)

theorem map_name_row (count : names.length = level.length - 1) :
    (row names level).map name = names := by
  have widths : names.length ≤ (Casteljau.neighbours level).length := by
    simp [Casteljau.neighbours, count]
  rw [row, List.map_map]
  exact List.map_fst_zip widths

theorem blends_row (bound : List.Forall₂ (Binds store d) level points)
    (count : names.length = level.length - 1) :
    List.Forall₂ (Blends operations t store d) (row names level)
      ((Casteljau.neighbours points).map fun pair => operations.blend t pair.1 pair.2) := by
  have size := bound.length_eq
  refine List.forall₂_iff_get.mpr ⟨?_, ?_⟩
  · simp [row, Casteljau.neighbours, count, size]
  · intro i left right
    have next : i + 1 < points.length := by
      simp only [Casteljau.neighbours, List.length_map, List.length_zip,
        List.length_tail] at right
      omega
    refine ⟨points[i], points[i + 1], ?_, ?_, ?_⟩
    · simpa [row, Casteljau.neighbours] using bound.get (i := i) (by omega) (by omega)
    · simpa [row, Casteljau.neighbours] using bound.get (i := i + 1) (by omega) next
    · simp [Casteljau.neighbours]

/-- A row of bindings defines the next row of the triangle. -/
theorem run_row (parameter : store "t" = some (.scalar t))
    (bound : List.Forall₂ (Binds store d) level points) (count : names.length = level.length - 1)
    (nodup : names.Nodup) (apart : ∀ name ∈ names, name ∉ level) (reserved : "t" ∉ names) :
    ∃ final, ((row names level).map (toStatement d)).foldlM (Statement.run operations control)
        store = some final ∧
      List.Forall₂ (Binds final d) names ((Casteljau.neighbours points).map fun pair =>
        operations.blend t pair.1 pair.2) ∧
      ∀ other ∉ names, final other = store other := by
  have named := map_name_row count
  have different : ((row names level).map name).Nodup := by rwa [named]
  have unread : ∀ b ∈ row names level, ∀ other ∈ row names level,
      other.first ≠ b.name ∧ other.second ≠ b.name := by
    intro b member other otherMember
    have fresh := apart b.name (mem_row member).1
    obtain ⟨-, first, second⟩ := mem_row otherMember
    constructor
    · intro same
      exact fresh (same ▸ first)
    · intro same
      exact fresh (same ▸ second)
  have unreserved : ∀ b ∈ row names level, "t" ≠ b.name := by
    intro b member same
    exact reserved (same ▸ (mem_row member).1)
  obtain ⟨final, run, results, frame⟩ :=
    run_bindings parameter (blends_row bound count) different unread unreserved
  refine ⟨final, run, ?_, ?_⟩
  · rw [← List.forall₂_map_left_iff (f := name), named] at results
    exact results
  · intro other absent
    exact frame other (by rwa [named])

theorem takeNames_of_le {count : Nat} (enough : count ≤ supply.length) :
    takeNames count supply = supply.take count := by
  rw [takeNames, Nat.sub_eq_zero_of_le enough, List.replicate_zero, List.append_nil]

/-- The names of the supply and the last name can be given to points above a row. -/
structure Fresh (supply level : List String) : Prop where
  nodup : supply.Nodup
  parameter : "t" ∉ supply
  last : "p" ∉ supply
  apart : ∀ name ∈ supply, name ∉ level
  lastApart : "p" ∉ level

/-- What is left of the supply is fresh for the row that has been taken from it. -/
theorem Fresh.next (fresh : Fresh supply level) (count : Nat) :
    Fresh (supply.drop count) (supply.take count) where
  nodup := fresh.nodup.sublist (List.drop_sublist _ _)
  parameter member := fresh.parameter (List.mem_of_mem_drop member)
  last member := fresh.last (List.mem_of_mem_drop member)
  apart := by
    have nodup := fresh.nodup
    rw [← List.take_append_drop count supply] at nodup
    intro name back front
    exact (List.nodup_append.mp nodup).2.2 name front name back rfl
  lastApart member := fresh.last (List.mem_of_mem_take member)

/-- A supply with enough names for all rows has enough for the first one. -/
theorem length_of_enough {count : Nat}
    (enough : (count + 2) * (count + 3) ≤ 2 * supply.length + 2) : count + 2 ≤ supply.length := by
  nlinarith

/-- The names behind those of the first row are enough for the rows that follow. -/
theorem enough_drop {count : Nat} (enough : (count + 2) * (count + 3) ≤ 2 * supply.length + 2) :
    (count + 1) * (count + 2) ≤ 2 * (supply.drop (count + 2)).length + 2 := by
  rw [List.length_drop]
  nlinarith [Nat.sub_add_cancel (length_of_enough enough)]

/-- The names of the first row are taken from the supply. -/
theorem rowsFrom_succ {count : Nat} (size : level.length = count + 3)
    (enough : count + 2 ≤ supply.length) :
    rowsFrom (count + 2) supply level =
      row (supply.take (count + 2)) level ::
        rowsFrom (count + 1) (supply.drop (count + 2)) (supply.take (count + 2)) := by
  have width : level.length - 1 = count + 2 := by omega
  rw [rowsFrom, width, takeNames_of_le enough]

/-- Names behind those that the rows need make no difference. -/
theorem rowsFrom_take {count used : Nat} (size : level.length = count + 1)
    (inside : used ≤ supply.length) (enough : count * (count + 1) ≤ 2 * used + 2) :
    rowsFrom count (supply.take used) level = rowsFrom count supply level := by
  induction count generalizing supply level used with
  | zero => rfl
  | succ count ih =>
      cases count with
      | zero => rfl
      | succ count =>
          have taken : (supply.take used).length = used := List.length_take_of_le inside
          have large : count + 2 ≤ used := by nlinarith
          have row : (supply.take (count + 2)).length = count + 2 :=
            List.length_take_of_le (large.trans inside)
          have rest : (count + 1) * (count + 2) ≤ 2 * (used - (count + 2)) + 2 := by
            nlinarith [Nat.sub_add_cancel large]
          rw [rowsFrom_succ size (large.trans_eq taken.symm),
            rowsFrom_succ size (large.trans inside), List.take_take, min_eq_left large,
            List.drop_take, ih row (by rw [List.length_drop]; omega) rest]

/-- The rows take the names of the supply in order, as many as there are entries above the first row
but one, and the last name stands behind them. -/
theorem names_rowsFrom {count used : Nat} (size : level.length = count + 2)
    (exact : (count + 1) * (count + 2) = 2 * used + 2) (inside : used ≤ supply.length) :
    (rowsFrom (count + 1) supply level).flatten.map name = supply.take used ++ ["p"] := by
  induction count generalizing supply level used with
  | zero =>
      have none : used = 0 := by omega
      have one : ["p"].length = level.length - 1 := by simp [size]
      rw [rowsFrom, List.flatten_singleton, map_name_row one, none]
      rfl
  | succ count ih =>
      have large : count + 2 ≤ used := by nlinarith
      have row : (supply.take (count + 2)).length = count + 2 :=
        List.length_take_of_le (large.trans inside)
      have rest : (count + 1) * (count + 2) = 2 * (used - (count + 2)) + 2 := by
        nlinarith [Nat.sub_add_cancel large]
      rw [rowsFrom_succ size (large.trans inside), List.flatten_cons, List.map_append,
        map_name_row (by omega), ih row rest (by rw [List.length_drop]; omega),
        ← List.append_assoc, ← List.take_add, Nat.add_sub_cancel' large]

/-- The rows of bindings define the triangle. The induction is on the number of rows: what the first
row takes from the supply is fresh, and the rest of the supply stays so. -/
theorem run_rowsFrom {count : Nat} (parameter : store "t" = some (.scalar t))
    (bound : List.Forall₂ (Binds store d) level points) (size : level.length = count + 1)
    (enough : count * (count + 1) ≤ 2 * supply.length + 2) (fresh : Fresh supply level) :
    ∃ final, ((rowsFrom count supply level).flatten.map (toStatement d)).foldlM
        (Statement.run operations control) store = some final ∧
      List.Forall₂ (List.Forall₂ (Binds final d))
        (level :: (rowsFrom count supply level).map fun row => row.map name)
        (Casteljau.rowsFrom (operations.blend t) count points) ∧
      ∀ other ∉ supply, other ≠ "p" → final other = store other := by
  induction count generalizing store level supply points with
  | zero => exact ⟨store, rfl, .cons bound .nil, fun _ _ _ => rfl⟩
  | succ count ih =>
      cases count with
      | zero =>
          have one : ["p"].length = level.length - 1 := by simp [size]
          obtain ⟨final, run, results, frame⟩ := run_row parameter bound one
            (List.nodup_singleton _) (by simpa using fresh.lastApart) (by decide)
          have kept (other : String) (differ : other ≠ "p") : final other = store other :=
            frame other (by simpa using differ)
          have below : List.Forall₂ (Binds final d) level points :=
            binds_of_frame bound fun name member => kept name fun same =>
              fresh.lastApart (same ▸ member)
          refine ⟨final, ?_, .cons below (.cons ?_ .nil), fun other _ differ => kept other differ⟩
          · simpa [rowsFrom] using run
          · change List.Forall₂ (Binds final d) ((row ["p"] level).map name) _
            rw [map_name_row one]
            exact results
      | succ count =>
          have large := length_of_enough enough
          have taken := List.length_take_of_le large
          have width : (supply.take (count + 2)).length = level.length - 1 := by omega
          have reserved : "t" ∉ supply.take (count + 2) := fun member =>
            fresh.parameter (List.mem_of_mem_take member)
          obtain ⟨middle, firstRun, results, firstFrame⟩ := run_row parameter bound width
            (fresh.nodup.sublist (List.take_sublist _ _))
            (fun name member => fresh.apart name (List.mem_of_mem_take member)) reserved
          obtain ⟨final, run, rows, frame⟩ := ih ((firstFrame "t" reserved).trans parameter)
            results taken (enough_drop enough) (fresh.next (count + 2))
          have kept (other : String) (absent : other ∉ supply) (differ : other ≠ "p") :
              final other = store other := by
            rw [frame other (fun member => absent (List.mem_of_mem_drop member)) differ]
            exact firstFrame other fun member => absent (List.mem_of_mem_take member)
          have below : List.Forall₂ (Binds final d) level points :=
            binds_of_frame bound fun name member => kept name
              (fun inside => fresh.apart name inside member)
              (fun same => fresh.lastApart (same ▸ member))
          rw [rowsFrom_succ size large]
          refine ⟨final, ?_, ?_, kept⟩
          · rw [List.flatten_cons, List.map_append, List.foldlM_append, firstRun]
            exact run
          · rw [List.map_cons, map_name_row width]
            exact .cons below rows

end Rows

/-! ## Names of the supply -/

def isLetter (name : String) : Bool :=
  match name.toList with
  | [c] => c.isLower
  | _ => false

theorem isLetter_of_mem_letters : ∀ name ∈ letters, isLetter name = true := by decide

theorem isIdentifier_of_mem_letters : ∀ name ∈ letters, isIdentifier name = true := by
  decide

/-- If no control point is named by a letter, all letters are fresh. -/
theorem fresh_letters {names : List String} (apart : ∀ name ∈ names, isLetter name = false) :
    Fresh letters names where
  nodup := by decide
  parameter := by decide
  last := by decide
  apart name letter member := by
    cases (isLetter_of_mem_letters name letter).symm.trans (apart name member)
  lastApart member := by cases apart "p" member

/-- Six rows above the control points use up no more letters than there are. -/
theorem enough_letters {n : Nat} (few : n ≤ 6) : n * (n + 1) ≤ 2 * letters.length + 2 :=
  (Nat.mul_le_mul few (Nat.succ_le_succ few)).trans (by decide)

theorem readable_rows {names : List String}
    (identifiers : ∀ name ∈ names, isIdentifier name = true) :
    ∀ b ∈ (rows names).flatten, b.Readable := by
  intro b member
  obtain ⟨name, first, second⟩ := holds_rows (by decide) identifiers b member
  exact ⟨name, first, second⟩

end PointBinding

section Result

variable {α β γ : Type} {relation : α → β → Prop}

/-- Related rows have related edges. -/
theorem Casteljau.forall₂_edges {rows : List (List α)} {others : List (List β)}
    (related : List.Forall₂ (List.Forall₂ relation) rows others) :
    List.Forall₂ relation (edges rows).1 (edges others).1 ∧
      List.Forall₂ relation (edges rows).2 (edges others).2 := by
  have heads {rows : List (List α)} {others : List (List β)}
      (related : List.Forall₂ (List.Forall₂ relation) rows others) :
      List.Forall₂ relation (rows.filterMap List.head?) (others.filterMap List.head?) := by
    induction related with
    | nil => exact .nil
    | cons row _ ih =>
        cases row with
        | nil => exact ih
        | cons first _ => exact ih.cons first
  refine ⟨heads related, ?_⟩
  have backwards : List.Forall₂ (List.Forall₂ relation) (rows.map List.reverse)
      (others.map List.reverse) := by
    rw [List.forall₂_map_left_iff, List.forall₂_map_right_iff]
    exact related.imp fun _ _ row => List.rel_reverse row
  have lasts := List.rel_reverse (heads backwards)
  simp only [List.filterMap_map, Function.comp_def, List.head?_reverse] at lasts
  exact lasts

theorem mapM_of_binds {store : Store γ} {d : Dimension} {names : List String}
    {points : List (Fin d.number → γ)}
    (bound : List.Forall₂ (PointBinding.Binds store d) names points) :
    names.mapM store = some (points.map d.value) := by
  induction bound with
  | nil => rfl
  | cons first _ ih =>
      rw [List.mapM_cons, first, ih]
      rfl

end Result

namespace PointBinding

/-- The first statement binds different names to the control points. -/
theorem run_points {α : Type} (operations : Operations α) (t : α) (d : Dimension)
    {names : List String} {control : List (Fin d.number → α)}
    (count : control.length = names.length) (nodup : names.Nodup) (reserved : "t" ∉ names) :
    ∃ start, Statement.run operations (control.map d.value)
        (Store.bind (fun _ => none) "t" (.scalar t)) (.points names) = some start ∧
      start "t" = some (.scalar t) ∧ List.Forall₂ (Binds start d) names control := by
  have same : names.length = (control.map d.value).length := by rw [List.length_map, count]
  refine ⟨_, if_pos same, ?_, ?_⟩
  · rw [Store.bindAll_of_not_mem reserved]
    rfl
  · have bound := Store.bindAll_binds (Store.bind (fun _ => none) "t" (.scalar t)) same nodup
    rw [List.forall₂_map_right_iff] at bound
    exact bound

end PointBinding

/-- The names of the control points, and behind them those of every row above. -/
def Blueprint.splitRows (names : List String) : List (List String) :=
  names :: (PointBinding.rows names).map fun row => row.map PointBinding.name

section Run

variable {α : Type} (operations : Operations α) (t : α) (d : Dimension) {names : List String}
  {control : List (Fin d.number → α)}

/-- Whatever the operators mean, the statements of a split bind every name to its entry of the
triangle of the control points if the letters that are used are fresh. -/
theorem run_splitStatements_of_fresh {n used : Nat} (count : control.length = names.length)
    (size : names.length = n + 1) (inside : used ≤ PointBinding.letters.length)
    (enough : n * (n + 1) ≤ 2 * used + 2) (nodup : names.Nodup) (reserved : "t" ∉ names)
    (fresh : PointBinding.Fresh (PointBinding.letters.take used) names) :
    ∃ final, (Blueprint.splitProgram d names).statements.foldlM
        (Statement.run operations (control.map d.value))
        (Store.bind (fun _ => none) "t" (.scalar t)) = some final ∧
      List.Forall₂ (List.Forall₂ (PointBinding.Binds final d)) (Blueprint.splitRows names)
        (Casteljau.triangle (operations.blend t) control) := by
  obtain ⟨start, taken, parameter, bound⟩ :=
    PointBinding.run_points operations t d count nodup reserved
  have width : (PointBinding.letters.take used).length = used := List.length_take_of_le inside
  obtain ⟨final, run, rows, -⟩ :=
    PointBinding.run_rowsFrom parameter bound size (enough.trans_eq (by rw [width])) fresh
  refine ⟨final, ?_, ?_⟩
  · rw [Blueprint.splitProgram, List.foldlM_cons, taken, PointBinding.rows, size,
      Nat.add_sub_cancel, ← PointBinding.rowsFrom_take size inside enough]
    exact run
  · rw [Blueprint.splitRows, PointBinding.rows, Casteljau.triangle, count, size,
      Nat.add_sub_cancel, ← PointBinding.rowsFrom_take size inside enough]
    exact rows

/-- Twenty-four letters are enough for seven points, and all are fresh if no point is named by a
letter. -/
theorem run_splitStatements (count : control.length = names.length) (nonempty : names ≠ [])
    (few : names.length ≤ 7) (nodup : names.Nodup)
    (apart : ∀ name ∈ names, PointBinding.isLetter name = false) :
    ∃ final, (Blueprint.splitProgram d names).statements.foldlM
        (Statement.run operations (control.map d.value))
        (Store.bind (fun _ => none) "t" (.scalar t)) = some final ∧
      List.Forall₂ (List.Forall₂ (PointBinding.Binds final d)) (Blueprint.splitRows names)
        (Casteljau.triangle (operations.blend t) control) := by
  obtain ⟨n, size⟩ := Nat.exists_eq_succ_of_ne_zero (List.length_pos_iff.mpr nonempty).ne'
  have reserved : "t" ∉ names := fun member => by cases apart "t" member
  refine run_splitStatements_of_fresh operations t d count size le_rfl
    (PointBinding.enough_letters (by omega)) nodup reserved ?_
  rw [List.take_length]
  exact PointBinding.fresh_letters apart

/-- If the statements of a split fill the triangle, its program computes the edges. -/
theorem run_splitProgram_of_entries
    (entries : ∃ final, (Blueprint.splitProgram d names).statements.foldlM
        (Statement.run operations (control.map d.value))
        (Store.bind (fun _ => none) "t" (.scalar t)) = some final ∧
      List.Forall₂ (List.Forall₂ (PointBinding.Binds final d)) (Blueprint.splitRows names)
        (Casteljau.triangle (operations.blend t) control)) :
    (Blueprint.splitProgram d names).run operations (control.map d.value) t =
      some ((Casteljau.edges (Casteljau.triangle (operations.blend t) control)).1.map d.value,
        (Casteljau.edges (Casteljau.triangle (operations.blend t) control)).2.map d.value) := by
  obtain ⟨final, statements, rows⟩ := entries
  obtain ⟨first, second⟩ := Casteljau.forall₂_edges rows
  exact Program.run_eq_some operations statements (mapM_of_binds first) (mapM_of_binds second)

/-- Whatever the operators mean, the program of a split computes the edges of the triangle of the
control points. -/
theorem run_splitProgram (count : control.length = names.length) (nonempty : names ≠ [])
    (few : names.length ≤ 7) (nodup : names.Nodup)
    (apart : ∀ name ∈ names, PointBinding.isLetter name = false) :
    (Blueprint.splitProgram d names).run operations (control.map d.value) t =
      some ((Casteljau.edges (Casteljau.triangle (operations.blend t) control)).1.map d.value,
        (Casteljau.edges (Casteljau.triangle (operations.blend t) control)).2.map d.value) :=
  run_splitProgram_of_entries operations t d
    (run_splitStatements operations t d count nonempty few nodup apart)

end Run

/-- Whatever the operators mean, executing the body of a split answers the edges of the triangle of
the control points. -/
theorem execute_splitBody {α : Type} (operations : Operations α) (t : α) (d : Dimension)
    (level : Nat) {names : List String} {control : List (Fin d.number → α)}
    (count : control.length = names.length) (nonempty : names ≠ []) (few : names.length ≤ 7)
    (identifiers : ∀ name ∈ names, isIdentifier name = true) (nodup : names.Nodup)
    (apart : ∀ name ∈ names, PointBinding.isLetter name = false) :
    execute operations (control.map d.value) t ((Blueprint.splitBody d names).linesAt level) =
      some ((Casteljau.edges (Casteljau.triangle (operations.blend t) control)).1.map d.value,
        (Casteljau.edges (Casteljau.triangle (operations.blend t) control)).2.map d.value) := by
  rw [execute, Blueprint.readProgram_splitBody identifiers
    (PointBinding.readable_rows identifiers) d level nonempty, Option.bind_some]
  exact run_splitProgram operations t d count nonempty few nodup apart

end CurveForge
