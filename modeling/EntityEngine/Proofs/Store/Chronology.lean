import EntityEngine.Proofs.Store.RowSearch
import EntityEngine.Proofs.Time.StoredOrder

/-! The order in which records are stored. A record that is stored later has a larger number and no
earlier time, so the order by time and number, the newest first, is the order of storing turned
round. -/

namespace EntityEngine.Store

open Number Sql Text Time

/-- Records by their numbers, with the times at which they were stored, all of them up to some time:
those that come later have larger numbers and no earlier times. -/
structure Chronological (now : Instant) (entries : List (Int × Value)) : Prop where
  ordered : entries.Pairwise fun a b => a.1 < b.1 ∧ (a.2.orderBy .bytes b.2).isLE = true
  past : ∀ x ∈ entries, ∃ t : Instant, t.IsCommon ∧ t ≤ now ∧ x.2 = .text t.stored

/-- What a write makes of the records in their order: some may be gone, or, where that may be, a new
one comes behind the others, with a larger number and the present time. -/
inductive Follows (now : Instant) (grows : Prop) (old : List (Int × Value)) :
    List (Int × Value) → Prop
  | fewer {new : List (Int × Value)} (less : new.Sublist old) : Follows now grows old new
  | more {number : Int} (may : grows) (last : ∀ x ∈ old, x.1 < number) :
      Follows now grows old (old ++ [(number, .text now.stored)])

theorem Follows.sublist {now : Instant} {grows : Prop} {old new : List (Int × Value)}
    (h : Follows now grows old new) (no : ¬ grows) : new.Sublist old := by
  cases h with
  | fewer less => exact less
  | more may _ => exact absurd may no

namespace Chronological

variable {now later : Instant} {old new : List (Int × Value)}

theorem nil (now : Instant) : Chronological now [] where
  ordered := .nil
  past := by intro x hx; cases hx

theorem sublist (h : Chronological now old) (less : new.Sublist old) : Chronological now new :=
  ⟨h.ordered.sublist less, fun x hx => h.past x (less.subset hx)⟩

theorem mono (h : Chronological now old) (le : now ≤ later) : Chronological later old := by
  refine ⟨h.ordered, fun x hx => ?_⟩
  obtain ⟨t, common, before, eq⟩ := h.past x hx
  exact ⟨t, common, t.le_trans before le, eq⟩

theorem follows {grows : Prop} (h : Chronological now old) (le : now ≤ later)
    (common : later.IsCommon) (step : Follows later grows old new) : Chronological later new := by
  cases step with
  | fewer less => exact (h.mono le).sublist less
  | more _ last =>
    constructor
    · refine List.pairwise_append.mpr ⟨h.ordered, List.pairwise_singleton _ _, ?_⟩
      intro a ha b hb
      rw [List.mem_singleton.mp hb]
      obtain ⟨t, before, le', eq⟩ := h.past a ha
      rw [eq]
      exact ⟨last a ha, Instant.stored_mono before common (t.le_trans le' le)⟩
    · intro x hx
      rcases List.mem_append.mp hx with hx | hx
      · exact (h.mono le).past x hx
      · rw [List.mem_singleton.mp hx]
        exact ⟨later, common, later.le_refl, rfl⟩

end Chronological

/-! ### The newest first -/

theorem orderBy_integers {m n : Int} (c : Collation) :
    (Value.integer m).orderBy c (.integer n) = compare m n := by
  have units : ∀ {a b : Int}, a < b → integerUnits a < integerUnits b := fun less =>
    Int.mul_lt_mul_of_pos_right less (Int.natCast_pos.mpr unitsInOne_pos)
  show (Value.integer m).order (.integer n) = _
  rw [order_of_sizes (m := integerUnits m) (n := integerUnits n) rfl rfl]
  rcases Int.lt_trichotomy m n with less | rfl | more
  · rw [Std.compare_eq_lt.mpr less, Std.compare_eq_lt.mpr (units less)]
  · rw [Std.compare_eq_iff_eq.mpr rfl, Std.compare_eq_iff_eq.mpr rfl]
  · rw [Std.compare_eq_gt.mpr more, Std.compare_eq_gt.mpr (units more)]

/-- Of two members of a list that is in order, one comes first, unless they are one. -/
theorem eq_or_apart {α : Type} {R : α → α → Prop} {l : List α} (h : l.Pairwise R) :
    ∀ a ∈ l, ∀ b ∈ l, a = b ∨ R a b ∨ R b a := by
  induction h with
  | nil => exact fun a ha => absurd ha List.not_mem_nil
  | cons first _ ih =>
    intro a ha b hb
    rcases List.mem_cons.mp ha with one | ha <;> rcases List.mem_cons.mp hb with other | hb
    · exact Or.inl (one.trans other.symm)
    · exact Or.inr (Or.inl (one ▸ first b hb))
    · exact Or.inr (Or.inr (other ▸ first a ha))
    · exact ih a ha b hb

/-- Of two records, the one with the larger number comes first. -/
theorem compareRows_newest {a b : Reader} {created number : Operand} {m n : Int} {s t : String}
    (plain : (a created).collation = .bytes) (first : (a created).value = .text s)
    (second : (b created).value = .text t) (one : (a number).value = .integer m)
    (other : (b number).value = .integer n)
    (older : m < n → ((Value.text s).orderBy .bytes (.text t)).isLE = true)
    (newer : n < m → ((Value.text t).orderBy .bytes (.text s)).isLE = true)
    (same : m = n → s = t) :
    (compareRows [⟨created, .descending⟩, ⟨number, .descending⟩] a b).isLE = decide (n ≤ m) := by
  have times : (Value.text s).orderBy .bytes (.text t) =
      ((Value.text t).orderBy .bytes (.text s)).swap := by
    show compare (textBytes s.toList) (textBytes t.toList) = (compare _ _).swap
    exact Std.OrientedCmp.eq_swap
  simp only [compareRows, OrderTerm.compare, plain, first, second, one, other, orderBy_integers,
    Ordering.then_eq]
  rcases Int.lt_trichotomy m n with less | rfl | more
  · have le := older less
    rw [Std.compare_eq_lt.mpr less, decide_eq_false (by omega)]
    revert le
    cases (Value.text s).orderBy .bytes (.text t) <;> simp
  · rw [same rfl, Std.compare_eq_iff_eq.mpr rfl, decide_eq_true (Int.le_refl _),
      orderBy_texts.mpr rfl]
    rfl
  · have le := newer more
    rw [Std.compare_eq_gt.mpr more, decide_eq_true (by omega), times]
    revert le
    cases (Value.text t).orderBy .bytes (.text s) <;> simp

/-- By time and number, the newest first, records stand in the order of storing turned round. -/
theorem sortRows_newest {α : Type} {read : α → Reader} {created number : Operand} {f : α → Int}
    {now : Instant} {rows stored : List α} (perm : rows.Perm stored)
    (chronological : Chronological now (stored.map fun r => (f r, (read r created).value)))
    (plain : ∀ r ∈ stored, (read r created).collation = .bytes)
    (shows : ∀ r ∈ stored, (read r number).value = .integer (f r)) :
    sortRows [⟨created, .descending⟩, ⟨number, .descending⟩] read rows = stored.reverse := by
  have ordered := List.pairwise_map.mp chronological.ordered
  have apart := eq_or_apart ordered
  have byNumber : ∀ a ∈ rows, ∀ b ∈ rows,
      (compareRows [⟨created, .descending⟩, ⟨number, .descending⟩] (read a) (read b)).isLE =
        decide (f b ≤ f a) := by
    intro a ha b hb
    replace ha := perm.mem_iff.mp ha
    replace hb := perm.mem_iff.mp hb
    obtain ⟨s, -, -, first⟩ := chronological.past _ (List.mem_map_of_mem ha)
    obtain ⟨t, -, -, second⟩ := chronological.past _ (List.mem_map_of_mem hb)
    simp only at first second
    have apart := apart a ha b hb
    rw [first, second] at apart
    refine compareRows_newest (plain a ha) first second (shows a ha) (shows b hb) ?_ ?_ ?_
    · intro less
      rcases apart with rfl | ⟨-, le⟩ | ⟨more, -⟩
      · omega
      · exact le
      · omega
    · intro more
      rcases apart with rfl | ⟨less, -⟩ | ⟨-, le⟩
      · omega
      · omega
      · exact le
    · intro same
      rcases apart with rfl | ⟨less, -⟩ | ⟨more, -⟩
      · rw [first] at second
        exact Value.text.inj second
      · omega
      · omega
  have sorted : ((sortRows [⟨created, .descending⟩, ⟨number, .descending⟩] read rows).map
      f).Pairwise (· ≥ ·) := by
    rw [sortRows, List.map_mergeSort (s := fun m n => decide (n ≤ m)) byNumber]
    refine (List.pairwise_mergeSort ?_ ?_ _).imp fun h => of_decide_eq_true h
    · intro a b c ab bc
      simp only [decide_eq_true_eq] at *
      omega
    · intro a b
      simp only [Bool.or_eq_true, decide_eq_true_eq]
      omega
  -- Records with one number are one, so the order by numbers leaves no choice.
  refine List.Perm.eq_of_pairwise ?_ (List.pairwise_map.mp sorted) ?_
    ((List.mergeSort_perm _ _).trans (perm.trans (List.reverse_perm _).symm))
  · intro a b ha hb le ge
    rcases apart a (perm.mem_iff.mp (mem_sortRows.mp ha)) b (List.mem_reverse.mp hb) with
      same | ⟨less, -⟩ | ⟨more, -⟩
    · exact same
    · omega
    · omega
  · exact List.pairwise_reverse.mpr (ordered.imp fun h => Int.le_of_lt h.1)

/-! ### Times in columns -/

/-- The text of a time ends in a letter that no number has, so a column keeps it as it is. -/
theorem numeric?_stored (t : Instant) : numeric? t.stored = none := by
  obtain ⟨body, ends⟩ : ∃ body, t.stored.toList = body ++ ['Z'] := by
    refine ⟨dateChars t.date ++ 'T' ::
      (clockChars t ++ '.' :: padded 6 (nanoOfSecond t / 1000)), ?_⟩
    simp only [Instant.stored, String.toList_ofList, List.append_assoc, List.cons_append]
  have last : Numeral.Ends ['Z'] := by
    intro c hc
    obtain rfl := Option.some.inj hc
    decide
  have rest : ∃ r, (body ++ ['Z']).dropWhile isSpace = r ++ ['Z'] := by
    rw [List.dropWhile_append]
    split
    · exact ⟨[], rfl⟩
    · exact ⟨_, rfl⟩
  obtain ⟨r, rest⟩ := rest
  rw [numeric?, ends, rest, Numeral.scan_append last]
  cases Numeral.scan r with
  | none => rfl
  | some p =>
    show (if (p.2 ++ ['Z']).all isSpace then _ else _) = none
    rw [if_neg]
    simp [isSpace]

/-- A statement leaves the numbers of rows to the table and keeps the times at which they were
stored; a new row is given the present time. -/
def Statement.Stamps (t : Table) (now : Instant) : Statement → Prop
  | insert given => t.givenNumber? given = none ∧
      Table.given? given Table.IsBuiltFrom.createdAtColumn = some (.text now.stored)
  | update changes => (∀ row, t.changedNumber? changes row = none) ∧
      ∀ old, Table.changedValue changes Table.IsBuiltFrom.createdAtColumn old = old
  | delete => True

theorem Statement.stamps_congr {t u : Table} {now : Instant} {statement : Statement}
    (same : u.bare = t.bare) : statement.Stamps u now ↔ statement.Stamps t now := by
  have bare : ∀ t : Table, statement.Stamps t now ↔ statement.Stamps t.bare now := by
    intro t
    cases statement <;> rfl
  rw [bare u, same, ← bare t]

namespace Table

variable {t : Table} {row : Row} {rows : List Row}

/-- The number of a row, and the time at which it was stored. -/
def entry (row : Row) : Int × Value := (row.number, valueAt row 2)

def entries (t : Table) : List (Int × Value) := t.rows.map entry

theorem fst_entries (t : Table) : t.entries.map Prod.fst = t.rows.map Row.number := List.map_map

/-- The rows of a template in the order in which they were stored, each of which shows its number
first. -/
structure IsChronicle (t : Table) (now : Instant) : Prop where
  entries : Chronological now t.entries
  numbers : ∀ r ∈ t.rows, r.values[0]? = some (.integer r.number)

theorem IsChronicle.ascending {now : Instant} (h : t.IsChronicle now) :
    t.rows.Pairwise fun a b => a.number < b.number :=
  (List.pairwise_map.mp h.entries.ordered).imp fun h => h.1

/-! ### Rows in the order of their numbers -/

/-- Where numbers are used once, a next number is larger than all. -/
theorem lt_nextNumber {used number : Int} (once : t.isAutoincrement = true)
    (ascending : t.rows.Pairwise fun a b => a.number < b.number)
    (h : t.nextNumber used = .ok number) : ∀ r ∈ t.rows, r.number < number := by
  intro r hr
  rcases List.eq_nil_or_concat t.rows with none | ⟨init, last, eq⟩
  · rw [none] at hr
    cases hr
  · rw [List.concat_eq_append] at eq
    have highest : t.rows.getLast? = some last := by rw [eq, List.getLast?_concat]
    simp only [nextNumber, once, if_true, highest] at h
    split at h
    · cases h
    · have next := Except.ok.inj h
      rw [eq] at hr ascending
      rcases List.mem_append.mp hr with hr | hr
      · have less := (List.pairwise_append.mp ascending).2.2 r hr last (List.mem_singleton_self _)
        omega
      · rw [List.mem_singleton.mp hr]
        omega

theorem place_last (last : ∀ r ∈ rows, r.number < row.number) : place row rows = rows ++ [row] := by
  induction rows with
  | nil => rfl
  | cons r rows ih =>
    have less := last r List.mem_cons_self
    rw [place, if_neg (by omega), ih fun r hr => last r (List.mem_cons_of_mem _ hr)]
    rfl

/-- A row that keeps its number stands in the place of the older one. -/
theorem place_same {old : Row} (ascending : rows.Pairwise fun a b => a.number < b.number)
    (there : old ∈ rows) (same : row.number = old.number) :
    place row (rows.filter fun r => r.number ≠ old.number) =
      rows.map fun r => if r.number = old.number then row else r := by
  induction ascending with
  | nil => cases there
  | @cons r rows first ascending ih =>
    rw [List.map_cons, List.filter_cons]
    rcases List.mem_cons.mp there with rfl | there
    · have others : ∀ r ∈ rows, r.number ≠ old.number := fun r hr => by
        have := first r hr
        omega
      rw [if_neg (by simp), if_pos rfl,
        List.filter_eq_self.mpr fun r hr => by simpa using others r hr]
      have stay : rows.map (fun r => if r.number = old.number then row else r) = rows :=
        (List.map_congr_left fun r hr => if_neg (others r hr)).trans (List.map_id _)
      rw [stay]
      cases rows with
      | nil => rfl
      | cons s rows =>
        have less := first s List.mem_cons_self
        rw [place, if_pos (by omega)]
    · have less := first old there
      rw [if_pos (by simpa using by omega), if_neg (by omega), place, if_neg (by omega), ih there]

namespace IsBuiltFrom

variable {m : Entity} {next : Row} {now : Instant}

theorem createdAtColumn_store (now : Instant) :
    createdAtColumn.affinity.store (.text now.stored) = .text now.stored := by
  have affinity : createdAtColumn.affinity = .numeric := by decide
  have kept : Affinity.numeric.store (.text now.stored) =
      ((numeric? now.stored).map condense).getD (.text now.stored) := rfl
  rw [affinity, kept, numeric?_stored]
  rfl

/-- The column of the numbers is the first one, and no other one. -/
theorem isNumberColumn_eq (h : t.IsBuiltFrom m) (template : m.layout = .template) (name : String) :
    t.isNumberColumn name = Text.sameFold name "id" := by
  rw [isNumberColumn, h.parts.2.2.1, Entity.numberColumn?_tableText h.derived, template]
  rfl

theorem isNumberColumn_createdAt (h : t.IsBuiltFrom m) (template : m.layout = .template) :
    t.isNumberColumn createdAtColumn.name = false := by
  rw [h.isNumberColumn_eq template]
  decide

theorem column_createdAt (h : t.IsBuiltFrom m) (template : m.layout = .template) :
    t.columns[2]? = some createdAtColumn := by
  obtain ⟨rest, columns⟩ := h.columns_template template
  rw [columns]
  rfl

theorem zip_createdAt (h : t.IsBuiltFrom m) (template : m.layout = .template)
    (values : List Value) :
    (t.columns.zip values)[2]? = values[2]?.map fun v => (createdAtColumn, v) := by
  cases third : values[2]? with
  | none =>
    rw [List.getElem?_eq_none_iff] at third
    exact List.getElem?_eq_none (by rw [List.length_zip]; omega)
  | some v => exact List.getElem?_zip_eq_some.mpr ⟨h.column_createdAt template, third⟩

theorem numbered_first (h : t.IsBuiltFrom m) (template : m.layout = .template) (number : Int)
    {values : List Value} (first : 0 < values.length) :
    (t.numbered number values)[0]? = some (.integer number) := by
  obtain ⟨rest, columns⟩ := h.columns_template template
  have id : t.isNumberColumn idColumn.name = true := by
    rw [h.isNumberColumn_eq template]
    decide
  obtain ⟨v, others, rfl⟩ := List.exists_cons_of_length_pos first
  simp [numbered, columns, id]

/-- What the column of times has is shown as it is. -/
theorem numbered_createdAt (h : t.IsBuiltFrom m) (template : m.layout = .template) (number : Int)
    (values : List Value) : (t.numbered number values)[2]? = values[2]? := by
  rw [numbered, List.getElem?_map, h.zip_createdAt template]
  cases values[2]? <;> simp [h.isNumberColumn_createdAt template]

/-- A new row that is given the time stands behind the others, and has the time. -/
theorem new_entry (h : t.IsBuiltFrom m) (template : m.layout = .template)
    (ascending : t.rows.Pairwise fun a b => a.number < b.number)
    {given : List (String × Value)} (stamps : (Statement.insert given).Stamps t now)
    {context : Setting} {used number : Int} {values : List Value}
    (next : t.numberFor used given = .ok number)
    (found : t.columns.mapM (fun c =>
      if t.isNumberColumn c.name then pure .null else newValue context given c) = .ok values) :
    (∀ r ∈ t.rows, r.number < number) ∧
      (t.numbered number values)[0]? = some (.integer number) ∧
        entry ⟨number, t.numbered number values⟩ = (number, .text now.stored) := by
  obtain ⟨ungiven, given⟩ := stamps
  have created : values[2]? = some (.text now.stored) := by
    obtain ⟨v, there, made⟩ := mapM_result found (h.column_createdAt template)
    rw [h.isNumberColumn_createdAt template, if_neg Bool.false_ne_true, newValue, given] at made
    rw [there, ← Except.ok.inj made, createdAtColumn_store]
  obtain ⟨bound, -⟩ := List.getElem?_eq_some_iff.mp created
  have following : t.nextNumber used = .ok number := by
    simpa only [numberFor, ungiven] using next
  refine ⟨lt_nextNumber (h.isAutoincrement template) ascending following,
    h.numbered_first template number (by omega), ?_⟩
  rw [entry, valueAt, h.numbered_createdAt template, created]
  rfl

/-- A row that is changed keeps its number and its time. -/
theorem changed_entry (h : t.IsBuiltFrom m) (template : m.layout = .template)
    {changes : List (String × Change)} (stamps : (Statement.update changes).Stamps t now)
    {old changed : Row} (shown : old.values[0]? = some (.integer old.number))
    (made : t.changedRow changes old = .ok changed) :
    changed.number = old.number ∧ changed.values[0]? = some (.integer changed.number) ∧
      entry changed = entry old := by
  obtain ⟨unnumbered, untimed⟩ := stamps
  simp only [changedRow, unnumbered] at made
  obtain rfl := (Except.ok.inj made).symm
  obtain ⟨rest, columns⟩ := h.columns_template template
  obtain ⟨bound, -⟩ := List.getElem?_eq_some_iff.mp shown
  refine ⟨rfl, h.numbered_first template old.number ?_, ?_⟩
  · rw [columns, List.length_map, List.length_zip, List.length_cons]
    omega
  · rw [entry, entry, valueAt, h.numbered_createdAt template, valueAt, List.getElem?_map,
      h.zip_createdAt template]
    cases old.values[2]? with
    | none => rfl
    | some v =>
      show (old.number, changedValue changes createdAtColumn v) = (old.number, v)
      rw [untimed]

/-- What a statement writes in a template keeps rows in the order in which they were stored. -/
theorem follows (h : t.IsBuiltFrom m) (template : m.layout = .template) {past : Instant}
    (orderly : t.IsOrderly) (chronicle : t.IsChronicle past) {statement : Statement}
    (stamps : statement.Stamps t now) (move : t.RowsMove statement rows) :
    Follows now statement.IsInsert t.entries (rows.map entry) ∧
      ∀ r ∈ rows, r.values[0]? = some (.integer r.number) := by
  have ascending := chronicle.ascending
  cases move with
  | removed number =>
    exact ⟨.fewer (List.filter_sublist.map _),
      fun r hr => chronicle.numbers r (List.mem_filter.mp hr).1⟩
  | @stored _ changed _ stores _ _ _ =>
    cases stores with
    | new next found =>
      obtain ⟨last, first, own⟩ := h.new_entry template ascending stamps next found
      rw [place_last last, List.map_append, List.map_singleton, own]
      refine ⟨.more trivial fun x hx => ?_, fun r hr => ?_⟩
      · obtain ⟨r, hr, rfl⟩ := List.mem_map.mp hx
        exact last r hr
      · rcases List.mem_append.mp hr with hr | hr
        · exact chronicle.numbers r hr
        · rw [List.mem_singleton.mp hr]
          exact first
    | @changed changes old _ there made =>
      obtain ⟨same, first, own⟩ :=
        h.changed_entry template stamps (chronicle.numbers old there) made
      rw [place_same ascending there same, List.map_map]
      constructor
      · have entries : t.rows.map (entry ∘ fun r => if r.number = old.number then changed else r) =
            t.entries := by
          refine List.map_congr_left fun r hr => ?_
          show entry (if r.number = old.number then changed else r) = entry r
          split
          · rename_i number
            rw [orderly.eq_of_number hr there number, own]
          · rfl
        rw [entries]
        exact .fewer (List.Sublist.refl _)
      · intro r hr
        obtain ⟨s, hs, rfl⟩ := List.mem_map.mp hr
        split
        · exact first
        · exact chronicle.numbers s hs

/-! ### The rows of a template, the newest first -/

theorem reader_id (h : t.IsBuiltFrom m) (template : m.layout = .template) (row : Row) :
    (t.reader row (.column "id")).value = valueAt row 0 := by
  obtain ⟨rest, columns⟩ := h.columns_template template
  have own : Text.sameFold idColumn.name "id" = true := Text.sameFold_refl _
  have place : t.place? "id" = some 0 := by
    rw [place?, columns, List.findIdx?_cons, own]
    rfl
  rw [reader_column place (by rw [columns]; rfl)]

theorem reader_createdAt (h : t.IsBuiltFrom m) (template : m.layout = .template) (row : Row) :
    t.reader row (.column "created_at") = ⟨valueAt row 2, createdAtColumn.affinity, .bytes⟩ := by
  obtain ⟨rest, columns⟩ := h.columns_template template
  have others : Text.sameFold idColumn.name "created_at" = false ∧
      Text.sameFold recordIdColumn.name "created_at" = false := by decide
  have own : Text.sameFold createdAtColumn.name "created_at" = true := Text.sameFold_refl _
  have place : t.place? "created_at" = some 2 := by
    rw [place?, columns, List.findIdx?_cons, others.1, List.findIdx?_cons, others.2,
      List.findIdx?_cons, own]
    rfl
  rw [reader_column place (h.column_createdAt template)]
  rfl

theorem select_newest (h : t.IsBuiltFrom m) (template : m.layout = .template)
    (chronicle : t.IsChronicle now) (shown : List String) (conditions : List Condition) :
    t.select shown conditions (Query.tableOrder .template) =
      (matching conditions t.reader t.rows).reverse := by
  have times : ((matching conditions t.reader t.rows).map fun r =>
      (r.number, (t.reader r (.column "created_at")).value)) =
        (matching conditions t.reader t.rows).map entry :=
    List.map_congr_left fun r _ => by rw [h.reader_createdAt template]; rfl
  have less : (matching conditions t.reader t.rows).Sublist t.rows := List.filter_sublist
  have chronological := chronicle.entries.sublist (less.map entry)
  rw [← times] at chronological
  refine sortRows_newest ((t.visited_perm _ _ _).filter _) chronological ?_ ?_
  · intro r _
    rw [h.reader_createdAt template]
  · intro r hr
    rw [h.reader_id template, valueAt, chronicle.numbers r (List.mem_filter.mp hr).1]
    rfl

end IsBuiltFrom

end Table

namespace Database

variable {db db' : Database} {t : Table} {m : Entity} {name : String} {past now : Instant}

/-- The id of a document, and the time at which it was stored. -/
def documentEntry (r : Record) : Int × Value := (r.id, .text r.audit.createdAt.stored)

/-- A change of documents keeps them in the order in which they were stored. -/
theorem DocumentMove.follows {adds named : Record → Prop} {documents : List Record}
    (move : db.DocumentMove adds named documents) (owned : db.Owned)
    (stamped : ∀ r, adds r → r.audit.createdAt.stored = now.stored) :
    Follows now True (db.documents.map documentEntry) (documents.map documentEntry) := by
  cases move with
  | same => exact .fewer (List.Sublist.refl _)
  | removed _ => exact .fewer (List.filter_sublist.map _)
  | @added r new _ _ last _ =>
    rw [List.map_append, List.map_singleton, documentEntry, stamped r new]
    refine .more trivial fun x hx => ?_
    obtain ⟨s, hs, rfl⟩ := List.mem_map.mp hx
    exact last s hs
  | @changed r s hr _ same =>
    have entries : (db.documents.map fun x => if x.id = r.id then s else x).map documentEntry =
        db.documents.map documentEntry := by
      rw [List.map_map]
      refine List.map_congr_left fun x hx => ?_
      show documentEntry (if x.id = r.id then s else x) = documentEntry x
      split
      · rename_i id
        rw [owned.eq_of_id hx hr id, documentEntry, documentEntry, same.id, same.createdAt]
      · rfl
    rw [entries]
    exact .fewer (List.Sublist.refl _)

/-- The documents that meet some conditions, the newest first. -/
theorem selectDocuments_newest
    (chronological : Chronological now (db.documents.map documentEntry))
    (conditions : List Condition) : db.selectDocuments conditions Query.documentOrder =
      (matching conditions documentReader db.documents).reverse :=
  sortRows_newest (f := Record.id) (.refl _)
    (chronological.sublist (List.filter_sublist.map _)) (fun _ _ => rfl) fun _ _ => rfl

/-- A statement on the rows of a template's table keeps them in the order in which they were
stored. -/
theorem RowWrite.follows {statement : Statement} (write : RowWrite name statement db db')
    (tidy : db.Tidy) (orderly : db.IsOrderly) (there : db.table? name = some t)
    (built : t.IsBuiltFrom m) (template : m.layout = .template) (chronicle : t.IsChronicle past)
    (stamps : statement.Stamps t now) :
    ∃ u, db'.table? name = some u ∧ Follows now statement.IsInsert t.entries u.entries ∧
      ∀ r ∈ u.rows, r.values[0]? = some (.integer r.number) := by
  induction write with
  | refl => exact ⟨t, there, .fewer (List.Sublist.refl _), chronicle.numbers⟩
  | counted _ _ _ ih => exact ih
  | @put d u rows before once now move ih =>
    refine ⟨{ u with rows }, table?_putTable (u := { u with rows }) now rfl, ?_⟩
    obtain ⟨v, found, step, numbers⟩ := ih
    obtain rfl := Option.some.inj (found.symm.trans now)
    obtain ⟨w, found', bare⟩ := before.table? tidy there
    obtain rfl := Option.some.inj (found'.symm.trans now)
    have orderlyNow := before.orderly orderly _ (table?_some now).1
    have stampsNow := (Statement.stamps_congr bare).mpr stamps
    by_cases grows : statement.IsInsert
    -- A new row is stored before anything else is done.
    · rw [once grows] at now
      obtain rfl := Option.some.inj (now.symm.trans there)
      exact built.follows template orderlyNow chronicle stamps move
    · have less := step.sublist grows
      obtain ⟨further, shown⟩ := (built.of_bare bare).follows template orderlyNow
        ⟨chronicle.entries.sublist less, numbers⟩ stampsNow move
      exact ⟨.fewer ((further.sublist grows).trans less), shown⟩

end Database

end EntityEngine.Store
