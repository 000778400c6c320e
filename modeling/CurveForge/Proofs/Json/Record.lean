import Mathlib
import CurveForge.Json.Record
import CurveForge.Proofs.Checked
import CurveForge.Proofs.Json.Scan

/-!
# Written records are read back

A record that is written as an object, with its members in the order of its fields,
is read back with the same values, and so is a list of such records. This holds in
every layout that differs from the compact one in blanks only.
-/

namespace CurveForge.Json

def FieldValue.written : FieldValue → String
  | .number value => toString value
  | .text value => quote value

/-- The values that fit a field of a kind. -/
inductive FieldKind.Holds : FieldKind → FieldValue → Prop where
  | signed {value : Int} (lower : -signLimit ≤ value) (upper : value < signLimit) :
      Holds .signed (.number value)
  | unsigned {value : Nat} (small : value < UInt64.size) : Holds .unsigned (.number value)
  | text (value : String) : Holds .text (.text value)

/-- The number that the digits of a whole number are read as. -/
def Number.ofInt : Int → Number
  | .ofNat n => .natural n
  | .negSucc n => .negative (n + 1)

/-- A whole number starts with a minus sign or a digit. -/
theorem front_of_int (value : Int) :
    ∃ c front, (toString value).toList = c :: front ∧ (c = '-' || c.isDigit) = true := by
  have spelled := Text.toList_toString_int value
  cases value with
  | negSucc n => exact ⟨'-', _, spelled, rfl⟩
  | ofNat n =>
      obtain ⟨c, front, first⟩ := List.exists_cons_of_ne_nil (Nat.toDigits_ne_nil (b := 10) (n := n))
      have digit := Nat.isDigit_of_mem_toDigits (by decide) (by decide) (first ▸ List.mem_cons_self)
      exact ⟨c, front, spelled.trans first, by rw [digit, Bool.or_true]⟩

theorem isBlank_of_front {c : Char} (front : (c = '-' || c.isDigit) = true) : isBlank c = false := by
  rw [Bool.eq_false_iff]
  intro blank
  simp only [isBlank, Bool.or_eq_true, decide_eq_true_eq] at blank
  rcases blank with ((rfl | rfl) | rfl) | rfl <;> cases front

/-- Whole numbers that fit a word of either kind are read back. -/
theorem readNumber_written {value : Int} (lower : -signLimit ≤ value) (upper : value < UInt64.size)
    {rest : List Char} (ends : EndsNumber rest) :
    readNumber ((toString value).toList ++ rest) = .ok (.ofInt value, rest) := by
  have spelled := Text.toList_toString_int value
  cases value with
  | ofNat n =>
      have small : n < UInt64.size := Int.ofNat_lt.mp upper
      have plain : readNumber (Nat.toDigits 10 n ++ rest) =
          readUnsigned false (Nat.toDigits 10 n ++ rest) := by
        unfold readNumber
        split
        next tail marked =>
          have front : (Nat.toDigits 10 n).head? = some '-' := by
            rw [← List.head?_append_of_ne_nil _ Nat.toDigits_ne_nil, marked]
            rfl
          cases Nat.isDigit_of_mem_toDigits (by decide) (by decide) (List.mem_of_head? front)
        next => rfl
      rw [spelled, plain, readUnsigned_toDigits false small ends, exactNumber]
      simp [small, Number.ofInt]
  | negSucc n =>
      have bound : n + 1 ≤ signLimit := by omega
      have small : n + 1 < UInt64.size := Nat.lt_of_le_of_lt bound (by decide)
      rw [spelled, List.cons_append, readNumber, readUnsigned_toDigits true small ends, exactNumber]
      simp [bound, Number.ofInt]

/-- A number that fits a field is its value. -/
theorem ofNumber_ofInt {kind : FieldKind} {value : Int} (holds : kind.Holds (.number value)) :
    kind.ofNumber (.ofInt value) = .ok (.number value) := by
  cases holds with
  | signed lower upper =>
      cases value with
      | ofNat n => simp [Number.ofInt, FieldKind.ofNumber, Int.ofNat_lt.mp upper]
      | negSucc n => simp [Number.ofInt, FieldKind.ofNumber, Int.negSucc_eq]
  | unsigned small => rfl

theorem bounds_of_holds {kind : FieldKind} {value : Int} (holds : kind.Holds (.number value)) :
    -signLimit ≤ value ∧ value < UInt64.size := by
  cases holds with
  | signed lower upper => exact ⟨lower, lt_trans upper (by decide)⟩
  | unsigned small => exact ⟨by omega, Int.ofNat_lt.mpr small⟩

/-- A value is read back in a field that it fits. -/
theorem readField_written {kind : FieldKind} {value : FieldValue} (holds : kind.Holds value)
    {blanks rest : List Char} (blank : IsBlankText blanks) (ends : EndsNumber rest) :
    readField kind (blanks ++ (value.written.toList ++ rest)) = .ok (value, rest) := by
  rw [readField, skipBlanks_append blank]
  cases value with
  | text value =>
      cases holds
      have quoted : (FieldValue.text value).written.toList ++ rest =
          '"' :: (value.toList.flatMap escape ++ '"' :: rest) := by
        simp [FieldValue.written, toList_quote]
      rw [quoted, skipBlanks_cons rfl]
      simp [readQuoted_written, bind, Except.bind, pure, Except.pure]
  | number value =>
      obtain ⟨lower, upper⟩ := bounds_of_holds holds
      have read := readNumber_written lower upper ends
      obtain ⟨c, front, first, starts⟩ := front_of_int value
      have other : c ≠ '"' := by
        rintro rfl
        cases starts
      rw [first, List.cons_append] at read
      rw [FieldValue.written, first, List.cons_append, skipBlanks_cons (isBlank_of_front starts)]
      simp only [other, if_false, starts, if_true, read, ofNumber_ofInt holds, bind, Except.bind, pure,
        Except.pure]

/-- The layout differs from the compact one in blanks only. -/
structure Layout.Spaced (layout : Layout) : Prop where
  lineBreak : ∀ depth, IsBlankText (layout.lineBreak depth).toList
  colon : ∃ blanks, layout.colon.toList = ':' :: blanks ∧ IsBlankText blanks

theorem spaced_compact : Layout.compact.Spaced :=
  ⟨fun _ _ member => (List.not_mem_nil member).elim, [], rfl, fun _ member => (List.not_mem_nil member).elim⟩

theorem spaced_indented : Layout.indented.Spaced := by
  refine ⟨fun depth c member => ?_, [' '], rfl, fun c member => ?_⟩
  · have spelled : (Layout.indented.lineBreak depth).toList =
        '\n' :: List.replicate (2 * depth) ' ' := by
      simp [Layout.indented]
    rw [spelled] at member
    rcases List.mem_cons.mp member with rfl | space
    · rfl
    · rw [List.eq_of_mem_replicate space]
      rfl
  · rw [List.mem_singleton.mp member]
    rfl

/-- Commas and closing brackets, behind blanks, end a number. -/
theorem endsNumber_blanks {blanks rest : List Char} {c : Char} (blank : IsBlankText blanks)
    (mark : c = ',' ∨ c = '\x7d' ∨ c = ']') : EndsNumber (blanks ++ c :: rest) := by
  intro first front
  cases blanks with
  | nil =>
      cases front
      rcases mark with rfl | rfl | rfl <;> decide
  | cons space blanks =>
      cases front
      have blank := blank first List.mem_cons_self
      simp only [isBlank, Bool.or_eq_true, decide_eq_true_eq] at blank
      rcases blank with ((rfl | rfl) | rfl) | rfl <;> decide

theorem toList_commas (item : String) (items : List String) :
    (",".intercalate (item :: items)).toList = item.toList ++ items.flatMap fun i => ',' :: i.toList := by
  induction items generalizing item with
  | nil => simp
  | cons next items ih =>
      rw [String.intercalate_cons_cons, String.toList_append, String.toList_append, ih,
        List.flatMap_cons, List.append_assoc]
      rfl

/-! ## Members of an object -/

variable {layout : Layout} {depth fuel : Nat} {rest : List Char}

/-- A record as the values of its fields. -/
abbrev Entries := List (Field × FieldValue)

def Entries.object (layout : Layout) (depth : Nat) (entries : Entries) : String :=
  layout.object depth (entries.map fun entry => (entry.1.name, entry.2.written))

def Entries.Fit (entries : Entries) : Prop := ∀ entry ∈ entries, entry.1.kind.Holds entry.2

def Slot.filled (entry : Field × FieldValue) : Slot := ⟨entry.1, some entry.2⟩

def Slot.vacant (entry : Field × FieldValue) : Slot := ⟨entry.1, none⟩

def memberTail (layout : Layout) (entry : Field × FieldValue) : List Char :=
  entry.1.name.toList.flatMap escape ++
    '"' :: (layout.colon.toList ++ entry.2.written.toList)

theorem toList_member (entry : Field × FieldValue) :
    (layout.member depth entry.1.name entry.2.written).toList =
      (layout.lineBreak (depth + 1)).toList ++ '"' :: memberTail layout entry := by
  simp [Layout.member, toList_quote, memberTail]

/-- The members that have been read are in their slots, and all other slots are vacant. -/
def slotsAt (done todo : Entries) : List Slot := done.map Slot.filled ++ todo.map Slot.vacant

theorem slotValues_filled (entries : Entries) :
    slotValues (slotsAt entries []) = .ok (entries.map Prod.snd) := by
  rw [slotValues, Checked.mapM_eq_ok_iff, slotsAt, List.map_nil, List.append_nil,
    List.forall₂_map_left_iff, List.forall₂_map_right_iff, List.forall₂_same]
  exact fun entry _ => rfl

/-- A value goes into the slot of its own name only. -/
theorem fillSlots_eq {done todo : Entries} {entry : Field × FieldValue}
    (earlier : ∀ other ∈ done, other.1.name ≠ entry.1.name)
    (later : ∀ other ∈ todo, other.1.name ≠ entry.1.name) :
    fillSlots entry.1.name entry.2 (slotsAt done (entry :: todo)) = slotsAt (done ++ [entry]) todo := by
  have front : fillSlots entry.1.name entry.2 (done.map Slot.filled) = done.map Slot.filled := by
    rw [fillSlots, List.map_map]
    exact List.map_congr_left fun other member => if_neg (earlier other member)
  have back : fillSlots entry.1.name entry.2 (todo.map Slot.vacant) = todo.map Slot.vacant := by
    rw [fillSlots, List.map_map]
    exact List.map_congr_left fun other member => if_neg (later other member)
  have here : (if (Slot.vacant entry).field.name = entry.1.name then
      ⟨(Slot.vacant entry).field, some entry.2⟩ else Slot.vacant entry) = Slot.filled entry :=
    if_pos rfl
  rw [fillSlots] at front back
  rw [fillSlots, slotsAt, slotsAt, List.map_append, List.map_cons, List.map_cons, front, back, here]
  simp

/-- The next value is stored in the first vacant slot, since no two fields have the same name. -/
theorem readMember_next {done todo : Entries} {entry : Field × FieldValue}
    (distinct : ((done ++ entry :: todo).map fun entry => entry.1.name).Nodup)
    (spaced : layout.Spaced) (holds : entry.1.kind.Holds entry.2) (ends : EndsNumber rest) :
    readMember (slotsAt done (entry :: todo)) entry.1.name
        (layout.colon.toList ++ (entry.2.written.toList ++ rest)) =
      .ok (slotsAt (done ++ [entry]) todo, rest) := by
  obtain ⟨blanks, colon, blank⟩ := spaced.colon
  rw [List.map_append, List.map_cons, List.nodup_append, List.nodup_cons] at distinct
  obtain ⟨-, ⟨unused, -⟩, apart⟩ := distinct
  have earlier : ∀ other ∈ done, other.1.name ≠ entry.1.name := fun other member =>
    apart _ (List.mem_map_of_mem member) _ List.mem_cons_self
  have later : ∀ other ∈ todo, other.1.name ≠ entry.1.name := fun other member same =>
    unused (same ▸ List.mem_map_of_mem member)
  have found : (slotsAt done (entry :: todo)).find? (fun slot => slot.field.name = entry.1.name) =
      some ⟨entry.1, none⟩ := by
    have none : (done.map Slot.filled).find? (fun slot => slot.field.name = entry.1.name) = none := by
      rw [List.find?_eq_none]
      intro slot member
      obtain ⟨other, listed, rfl⟩ := List.mem_map.mp member
      exact fun same => earlier other listed (of_decide_eq_true same)
    rw [slotsAt, List.find?_append, none]
    simp [Slot.vacant]
  have separated (text : List Char) : skipColon (':' :: text) = .ok text := rfl
  rw [readMember, found, colon, List.cons_append]
  simp only [separated, readField_written holds blank ends, fillSlots_eq earlier later, bind,
    Except.bind, pure, Except.pure]

/-- A member behind its opening quote is read and stored. -/
theorem readMemberThen_next {done todo : Entries} {entry : Field × FieldValue}
    (distinct : ((done ++ entry :: todo).map fun entry => entry.1.name).Nodup)
    (spaced : layout.Spaced) (holds : entry.1.kind.Holds entry.2) (ends : EndsNumber rest) :
    readMembersWithin.readMemberThen fuel (slotsAt done (entry :: todo))
        (memberTail layout entry ++ rest) =
      readMembersWithin fuel false (slotsAt (done ++ [entry]) todo) rest := by
  have spelled : memberTail layout entry ++ rest =
      entry.1.name.toList.flatMap escape ++
        '"' :: (layout.colon.toList ++ (entry.2.written.toList ++ rest)) := by
    simp [memberTail]
  rw [spelled, readMembersWithin.readMemberThen]
  simp only [readQuoted_written, readMember_next distinct spaced holds ends, bind, Except.bind]

def laterMembers (layout : Layout) (depth : Nat) (entries : Entries) (rest : List Char) : List Char :=
  entries.flatMap (fun entry =>
      ',' :: ((layout.lineBreak (depth + 1)).toList ++ '"' :: memberTail layout entry)) ++
    ((layout.lineBreak depth).toList ++ '\x7d' :: rest)

theorem laterMembers_cons (entry : Field × FieldValue) (entries : Entries) :
    laterMembers layout depth (entry :: entries) rest =
      ',' :: ((layout.lineBreak (depth + 1)).toList ++
        '"' :: (memberTail layout entry ++ laterMembers layout depth entries rest)) := by
  simp [laterMembers]

theorem endsNumber_laterMembers (spaced : layout.Spaced) (entries : Entries) :
    EndsNumber (laterMembers layout depth entries rest) := by
  cases entries with
  | nil => exact endsNumber_blanks (spaced.lineBreak depth) (.inr (.inl rfl))
  | cons entry entries =>
      have none : IsBlankText [] := fun _ absent => nomatch absent
      rw [laterMembers_cons]
      exact endsNumber_blanks none (.inl rfl)

/-- The members behind the first one are read one after another. The induction is on the members
that are left; those before them have filled their slots. -/
theorem readMembersWithin_later {done todo : Entries}
    (distinct : ((done ++ todo).map fun entry => entry.1.name).Nodup) (spaced : layout.Spaced)
    (fit : todo.Fit) (enough : todo.length < fuel) :
    readMembersWithin fuel false (slotsAt done todo) (laterMembers layout depth todo rest) =
      .ok ((done ++ todo).map Prod.snd, rest) := by
  induction todo generalizing done fuel with
  | nil =>
      obtain ⟨fuel, rfl⟩ := Nat.exists_eq_add_one_of_ne_zero (Nat.ne_of_gt enough)
      have closing : skipBlanks (laterMembers layout depth [] rest) = '\x7d' :: rest :=
        skipBlanks_append (spaced.lineBreak depth) _
      rw [readMembersWithin, closing, List.append_nil]
      simp only [slotValues_filled, bind, Except.bind, pure, Except.pure]
  | cons entry todo ih =>
      obtain ⟨fuel, rfl⟩ := Nat.exists_eq_add_one_of_ne_zero (Nat.ne_zero_of_lt enough)
      obtain ⟨holds, others⟩ := List.forall_mem_cons.mp fit
      have comma (text : List Char) : skipBlanks (',' :: text) = ',' :: text := rfl
      have quote (text : List Char) :
          skipBlanks ((layout.lineBreak (depth + 1)).toList ++ '"' :: text) = '"' :: text :=
        skipBlanks_append (spaced.lineBreak _) _
      rw [laterMembers_cons, readMembersWithin, comma]
      simp only [Bool.false_eq_true, if_false, quote]
      rw [readMemberThen_next distinct spaced holds (endsNumber_laterMembers spaced todo)]
      have again : done ++ entry :: todo = (done ++ [entry]) ++ todo := by simp
      rw [again] at distinct ⊢
      exact ih distinct others (Nat.lt_of_succ_lt_succ enough)

theorem length_le_laterMembers (layout : Layout) (depth : Nat) (entries : Entries)
    (rest : List Char) : entries.length ≤ (laterMembers layout depth entries rest).length := by
  induction entries with
  | nil => exact Nat.zero_le _
  | cons entry entries ih =>
      rw [laterMembers_cons]
      simp only [List.length_cons, List.length_append]
      omega

def objectTail (layout : Layout) (depth : Nat) (rest : List Char) : Entries → List Char
  | [] => (layout.lineBreak depth).toList ++ '\x7d' :: rest
  | entry :: entries => (layout.lineBreak (depth + 1)).toList ++
      '"' :: (memberTail layout entry ++ laterMembers layout depth entries rest)

theorem toList_object (entries : Entries) :
    (entries.object layout depth).toList ++ rest = '\x7b' :: objectTail layout depth rest entries := by
  cases entries with
  | nil => simp [Entries.object, Layout.object, objectTail]
  | cons entry entries =>
      rw [Entries.object, Layout.object, List.map_cons, List.map_cons, String.toList_append,
        String.toList_append, String.toList_append, toList_commas, toList_member, List.flatMap_map,
        List.flatMap_map]
      simp [objectTail, laterMembers, toList_member]

/-- A record that is written as an object is read back with the values of its fields. -/
theorem readRecord_object {entries : Entries}
    (distinct : (entries.map fun entry => entry.1.name).Nodup) (spaced : layout.Spaced)
    (fit : entries.Fit) :
    readRecord (entries.map Prod.fst) ((entries.object layout depth).toList ++ rest) =
      .ok (entries.map Prod.snd, rest) := by
  have brace (text : List Char) : skipBlanks ('\x7b' :: text) = '\x7b' :: text := rfl
  have slots : (entries.map Prod.fst).map (fun field => (⟨field, none⟩ : Slot)) =
      slotsAt [] entries := by
    rw [List.map_map]
    rfl
  rw [toList_object, readRecord, brace]
  simp only [slots]
  rw [readMembersWithin]
  cases entries with
  | nil =>
      have closing : skipBlanks (objectTail layout depth rest []) = '\x7d' :: rest :=
        skipBlanks_append (spaced.lineBreak depth) _
      rw [closing]
      simp only [slotValues_filled, bind, Except.bind, pure, Except.pure]
  | cons entry entries =>
      obtain ⟨holds, others⟩ := List.forall_mem_cons.mp fit
      have quote : skipBlanks (objectTail layout depth rest (entry :: entries)) =
          '"' :: (memberTail layout entry ++ laterMembers layout depth entries rest) :=
        skipBlanks_append (spaced.lineBreak (depth + 1)) _
      have enough : entries.length < (objectTail layout depth rest (entry :: entries)).length := by
        have short := length_le_laterMembers layout depth entries rest
        simp only [objectTail, List.length_append, List.length_cons]
        omega
      rw [quote]
      simp only [if_true]
      rw [readMemberThen_next distinct spaced holds (endsNumber_laterMembers spaced entries)]
      exact readMembersWithin_later distinct spaced others enough

/-! ## Lists of records -/

def laterRecords (layout : Layout) (depth : Nat) (records : List Entries) (rest : List Char) :
    List Char :=
  records.flatMap (fun entries => ',' ::
      ((layout.lineBreak (depth + 1)).toList ++ (entries.object layout (depth + 1)).toList)) ++
    ((layout.lineBreak depth).toList ++ ']' :: rest)

theorem laterRecords_cons (entries : Entries) (records : List Entries) :
    laterRecords layout depth (entries :: records) rest =
      ',' :: ((layout.lineBreak (depth + 1)).toList ++
        ((entries.object layout (depth + 1)).toList ++ laterRecords layout depth records rest)) := by
  simp [laterRecords]

/-- Records of the same fields, with values that fit. -/
def Uniform (fields : List Field) (records : List Entries) : Prop :=
  ∀ entries ∈ records, entries.map Prod.fst = fields ∧ entries.Fit

variable {fields : List Field} {records : List Entries}

/-- A record in a list is read when it has been found. -/
theorem readRecordsWithin_found {first : Bool} {text later : List Char} {entries : Entries}
    {values : List (List FieldValue)}
    (distinct : (fields.map Field.name).Nodup) (spaced : layout.Spaced)
    (same : entries.map Prod.fst = fields) (fit : entries.Fit)
    (found : nextItem first text =
      .ok (true, (entries.object layout depth).toList ++ later))
    (read : readRecordsWithin fields fuel false later = .ok (values, rest)) :
    readRecordsWithin fields (fuel + 1) first text = .ok (entries.map Prod.snd :: values, rest) := by
  have names : (entries.map fun entry => entry.1.name).Nodup := by
    rw [← same, List.map_map] at distinct
    exact distinct
  have record : readRecord (entries.map Prod.fst) ((entries.object layout depth).toList ++ later) =
      .ok (entries.map Prod.snd, later) := readRecord_object names spaced fit
  rw [same] at record
  rw [readRecordsWithin, found]
  simp only [bind, Except.bind, Bool.not_true, Bool.false_eq_true, if_false, record, read, pure,
    Except.pure]

/-- The records behind the first one are read one after another. -/
theorem readRecordsWithin_later (distinct : (fields.map Field.name).Nodup) (spaced : layout.Spaced)
    (uniform : Uniform fields records) (enough : records.length < fuel) :
    readRecordsWithin fields fuel false (laterRecords layout depth records rest) =
      .ok (records.map (List.map Prod.snd), rest) := by
  induction records generalizing fuel with
  | nil =>
      obtain ⟨fuel, rfl⟩ := Nat.exists_eq_add_one_of_ne_zero (Nat.ne_of_gt enough)
      have closing : skipBlanks (laterRecords layout depth [] rest) = ']' :: rest :=
        skipBlanks_append (spaced.lineBreak depth) _
      rw [readRecordsWithin, nextItem, closing]
      rfl
  | cons entries records ih =>
      obtain ⟨fuel, rfl⟩ := Nat.exists_eq_add_one_of_ne_zero (Nat.ne_zero_of_lt enough)
      obtain ⟨⟨same, fit⟩, others⟩ := List.forall_mem_cons.mp uniform
      have comma (text : List Char) : skipBlanks (',' :: text) = ',' :: text := rfl
      have brace (text : List Char) :
          skipBlanks ((layout.lineBreak (depth + 1)).toList ++ '\x7b' :: text) = '\x7b' :: text :=
        skipBlanks_append (spaced.lineBreak _) _
      have found : nextItem false (laterRecords layout depth (entries :: records) rest) =
          .ok (true, (entries.object layout (depth + 1)).toList ++
            laterRecords layout depth records rest) := by
        rw [laterRecords_cons, nextItem, comma, toList_object]
        simp only [Bool.false_eq_true, if_false, brace]
        rfl
      exact readRecordsWithin_found distinct spaced same fit found
        (ih others (Nat.lt_of_succ_lt_succ enough))

theorem length_le_laterRecords (layout : Layout) (depth : Nat) (records : List Entries)
    (rest : List Char) : records.length ≤ (laterRecords layout depth records rest).length := by
  induction records with
  | nil => exact Nat.zero_le _
  | cons entries records ih =>
      rw [laterRecords_cons]
      simp only [List.length_cons, List.length_append]
      omega

/-- A list of records is read back. -/
theorem readRecords_list (distinct : (fields.map Field.name).Nodup) (spaced : layout.Spaced)
    (uniform : Uniform fields records) :
    readRecords fields
        ((layout.list depth (records.map (Entries.object layout (depth + 1)))).toList ++ rest) =
      .ok (records.map (List.map Prod.snd), rest) := by
  have bracket (text : List Char) : skipBlanks ('[' :: text) = '[' :: text := rfl
  cases records with
  | nil =>
      have spelled : (layout.list depth ([].map (Entries.object layout (depth + 1)))).toList ++ rest =
          '[' :: ']' :: rest := by
        simp [Layout.list]
      rw [spelled, readRecords, bracket]
      rfl
  | cons entries records =>
      obtain ⟨⟨same, fit⟩, others⟩ := List.forall_mem_cons.mp uniform
      have spelled : (layout.list depth
          ((entries :: records).map (Entries.object layout (depth + 1)))).toList ++ rest =
            '[' :: ((layout.lineBreak (depth + 1)).toList ++
              ((entries.object layout (depth + 1)).toList ++
                laterRecords layout depth records rest)) := by
        rw [Layout.list, if_neg (by simp), List.map_cons, List.map_cons, String.toList_append,
          String.toList_append, String.toList_append, toList_commas, List.flatMap_map,
          List.flatMap_map]
        simp [laterRecords]
      have brace (text : List Char) :
          skipBlanks ((layout.lineBreak (depth + 1)).toList ++ '\x7b' :: text) = '\x7b' :: text :=
        skipBlanks_append (spaced.lineBreak _) _
      have found : nextItem true ((layout.lineBreak (depth + 1)).toList ++
          ((entries.object layout (depth + 1)).toList ++ laterRecords layout depth records rest)) =
            .ok (true, (entries.object layout (depth + 1)).toList ++
              laterRecords layout depth records rest) := by
        rw [nextItem, toList_object, brace]
        rfl
      rw [spelled, readRecords, bracket]
      refine readRecordsWithin_found distinct spaced same fit found
        (readRecordsWithin_later distinct spaced others ?_)
      have short := length_le_laterRecords layout depth records rest
      have braced : (entries.object layout (depth + 1)).toList ++ [] =
          '\x7b' :: objectTail layout (depth + 1) [] entries := toList_object entries
      have long := congrArg List.length braced
      simp only [List.length_append, List.length_cons, List.length_nil] at long ⊢
      omega

/-- A text that is read to its end is accepted. -/
theorem readWholeText_of_read {α : Type} {read : List Char → Except Rejection (α × List Char)}
    {text : String} {value : α} (whole : read text.toList = .ok (value, [])) :
    readWholeText read text = .ok value := by
  simp [readWholeText, whole, skipBlanks, bind, Except.bind, pure, Except.pure]

end CurveForge.Json
