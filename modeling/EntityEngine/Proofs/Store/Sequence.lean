import EntityEngine.Proofs.Store.Documents
import EntityEngine.Proofs.Store.Schema

/-! The largest numbers that were used. Those of the engine's own tables never fall, as long as the
statements on rows name other tables: a new row raises a number, and a table that is dropped takes
only its own with it. So an id that was given out is never given out again. -/

namespace EntityEngine

open Sql

/-- Only a text itself is equal to it in the order of values. -/
theorem Sql.Value.order_text_iff {v : Value} {s : String} :
    v.order (.text s) = .eq ↔ v = .text s := by
  cases v with
  | text t =>
    have bytes : (Value.text t).order (.text s) =
        compare (Text.textBytes t.toList) (Text.textBytes s.toList) := rfl
    rw [bytes, Std.compare_eq_iff_eq, Value.text.injEq]
    constructor
    · exact fun same => String.toList_inj.mp (Text.textBytes_injective same)
    · rintro rfl
      rfl
  | _ => simp [Value.order, Value.rank]

namespace Store

namespace Sequence

variable {s s' s'' : Table} {name other : String} {n : Int} {row : Row}

/-- The rows stand in ascending order of their numbers. -/
def IsOrderly (s : Table) : Prop := s.rows.Pairwise fun a b => a.number < b.number

theorem IsOrderly.eq_of_number (h : IsOrderly s) {a b : Row} (ha : a ∈ s.rows) (hb : b ∈ s.rows)
    (same : a.number = b.number) : a = b := by
  have apart : (s.rows.map Row.number).Nodup :=
    List.pairwise_map.mpr (h.imp fun less => Int.ne_of_lt less)
  exact List.inj_on_of_nodup_map apart ha hb same

theorem isOf_iff : isOf name row = true ↔ row.values.head? = some (.text name) := by
  rw [isOf, Option.any_eq_true]
  simp only [beq_iff_eq, Value.order_text_iff, exists_eq_right]

/-- No row is of two tables. -/
theorem isOf_other (own : isOf name row = true) (apart : other ≠ name) :
    isOf other row = false := by
  rw [← Bool.not_eq_true, isOf_iff, isOf_iff.mp own]
  exact fun same => apart (Value.text.inj (Option.some.inj same)).symm

/-! ### Raised numbers -/

/-- The row of a table with another number in it. -/
def renewed (row : Row) (name : String) (n : Int) (r : Row) : Row :=
  if r.number = row.number then { r with values := [.text name, .integer n] } else r

theorem renewed_number (r : Row) : (renewed row name n r).number = r.number := by
  unfold renewed
  split <;> rfl

/-- What raising a number comes to: it is large enough, or written anew, or written for the first
time. -/
theorem raise_cases (s : Table) (name : String) (n : Int) :
    (n ≤ largest s name ∧ raise s name n = s) ∨
      (∃ row, row? s name = some row ∧ largest s name < n ∧
        raise s name n = { s with rows := s.rows.map (renewed row name n) }) ∨
      (row? s name = none ∧ ∃ last, (∀ r ∈ s.rows.getLast?, r.number < last) ∧
        raise s name n =
          { s with rows := s.rows ++ [⟨last, [.text name, .integer (max n 0)]⟩] }) := by
  unfold raise
  cases found : row? s name with
  | none =>
    refine Or.inr (Or.inr ⟨rfl, (s.rows.getLast?.map Row.number).getD 0 + 1, fun r hr => ?_, ?_⟩)
    · rw [Option.mem_def.mp hr]
      exact Int.lt_succ _
    · simp only [largest, found]
  | some row =>
    simp only
    by_cases small : n ≤ largest s name
    · rw [Int.max_eq_right small, if_pos (Int.le_refl _)]
      exact Or.inl ⟨small, rfl⟩
    · have larger : largest s name < n := Int.not_le.mp small
      rw [Int.max_eq_left (Int.le_of_lt larger), if_neg small]
      exact Or.inr (Or.inl ⟨row, rfl, larger, rfl⟩)

theorem IsOrderly.raise (h : IsOrderly s) (name : String) (n : Int) :
    IsOrderly (raise s name n) := by
  rcases raise_cases s name n with ⟨-, eq⟩ | ⟨row, -, -, eq⟩ | ⟨-, last, above, eq⟩
  · rwa [eq]
  · rw [eq]
    refine List.pairwise_map.mpr (h.imp fun less => ?_)
    rwa [renewed_number, renewed_number]
  · rw [eq]
    refine List.pairwise_append.mpr ⟨h, List.pairwise_singleton _ _, fun a ha b hb => ?_⟩
    rw [List.mem_singleton.mp hb]
    -- The last row has the largest number, and the new one a larger one.
    cases end? : s.rows.getLast? with
    | none =>
      rw [List.getLast?_eq_none_iff.mp end?] at ha
      cases ha
    | some z =>
      have most := above z end?
      obtain ⟨init, split⟩ := List.getLast?_eq_some_iff.mp end?
      rw [split] at ha
      rcases List.mem_append.mp ha with before | own
      · rw [IsOrderly, split] at h
        have less := (List.pairwise_append.mp h).2.2 a before z (List.mem_singleton_self z)
        exact Int.lt_trans less most
      · rw [List.mem_singleton.mp own]
        exact most

theorem row?_renewed (h : IsOrderly s) (found : row? s name = some row) (k : String) :
    row? { s with rows := s.rows.map (renewed row name n) } k =
      (row? s k).map (renewed row name n) := by
  have own : isOf name row = true := List.find?_some found
  have alike : ∀ r ∈ s.rows, isOf k (renewed row name n r) = isOf k r := by
    intro r hr
    unfold renewed
    split
    · rename_i same
      rw [h.eq_of_number hr (List.mem_of_find?_eq_some found) same, Bool.eq_iff_iff, isOf_iff,
        isOf_iff, isOf_iff.mp own]
      rfl
    · rfl
  show (s.rows.map _).find? _ = _
  rw [List.find?_map, ← List.head?_filter, Function.comp_def, List.filter_congr alike,
    List.head?_filter, row?]

/-- The rows of other tables are left as they are. -/
theorem row?_renewed_other (h : IsOrderly s) (found : row? s name = some row) {k : String}
    (apart : k ≠ name) :
    row? { s with rows := s.rows.map (renewed row name n) } k = row? s k := by
  rw [row?_renewed h found]
  cases other : row? s k with
  | none => rfl
  | some r =>
    have isOther : isOf k r = true := List.find?_some other
    rw [Option.map_some, renewed, if_neg fun number => ?_]
    rw [h.eq_of_number (List.mem_of_find?_eq_some other) (List.mem_of_find?_eq_some found) number,
      isOf_other (List.find?_some found) apart] at isOther
    cases isOther

theorem row?_appended (s : Table) (r : Row) (k : String) :
    row? { s with rows := s.rows ++ [r] } k =
      (row? s k).or (if isOf k r then some r else none) := by
  rw [row?, List.find?_append, List.find?_singleton]
  rfl

/-- A number that is raised is the largest one of its table then, or was exceeded before, and other
tables keep theirs. -/
theorem largest_raise (h : IsOrderly s) (name : String) (n : Int) (k : String) :
    largest (raise s name n) k = if k = name then max n (largest s name) else largest s k := by
  rcases raise_cases s name n with ⟨small, eq⟩ | ⟨row, found, larger, eq⟩ | ⟨none, last, -, eq⟩
  · rw [eq]
    split
    · rename_i own
      rw [own, Int.max_eq_right small]
    · rfl
  · rw [eq]
    split
    · rename_i own
      rw [own, largest, row?_renewed h found, found, Option.map_some, renewed, if_pos rfl,
        Int.max_eq_left (Int.le_of_lt larger)]
      rfl
    · rename_i apart
      rw [largest, row?_renewed_other h found apart, largest]
  · rw [eq]
    split
    · rename_i own
      rw [own, largest, row?_appended, none, Option.none_or, if_pos (isOf_iff.mpr rfl), largest,
        none]
      rfl
    · rename_i apart
      have other : isOf k ⟨last, [.text name, .integer (max n 0)]⟩ = false :=
        isOf_other (isOf_iff.mpr rfl) apart
      rw [largest, row?_appended, other, if_neg Bool.false_ne_true, Option.or_none, largest]

/-! ### Forgotten numbers -/

theorem IsOrderly.forget (h : IsOrderly s) (name : String) : IsOrderly (forget s name) :=
  h.sublist List.filter_sublist

theorem largest_forget (s : Table) {k : String} (apart : k ≠ name) :
    largest (forget s name) k = largest s k := by
  have same : row? (forget s name) k = row? s k := by
    rw [row?, forget, List.find?_filter, row?]
    refine congrArg (List.find? · s.rows) (funext fun r => ?_)
    cases own : isOf k r with
    | false => simp
    | true => simp [isOf_other own apart.symm]
  rw [largest, same, largest]

/-! ### Numbers that are kept -/

/-- `s'` is `s` with numbers raised, or forgotten for tables that are not the engine's. -/
structure Grows (s s' : Table) : Prop where
  orderly : IsOrderly s → IsOrderly s'
  largest : IsOrderly s → ∀ k, IsKept k → largest s k ≤ largest s' k

namespace Grows

theorem refl (s : Table) : Grows s s := ⟨id, fun _ _ _ => Int.le_refl _⟩

theorem of_eq (same : s' = s) : Grows s s' := by
  rw [same]
  exact .refl s

theorem trans (h₁ : Grows s s') (h₂ : Grows s' s'') : Grows s s'' :=
  ⟨fun h => h₂.orderly (h₁.orderly h), fun h k kept =>
    Int.le_trans (h₁.largest h k kept) (h₂.largest (h₁.orderly h) k kept)⟩

theorem raise (s : Table) (name : String) (n : Int) : Grows s (Sequence.raise s name n) := by
  refine ⟨fun h => h.raise name n, fun h k _ => ?_⟩
  rw [largest_raise h]
  split
  · rename_i own
    rw [own]
    exact Int.le_max_right _ _
  · exact Int.le_refl _

theorem forget (s : Table) (unkept : IsUnkept name) : Grows s (Sequence.forget s name) := by
  refine ⟨fun h => h.forget name, fun _ k kept => ?_⟩
  exact Int.le_of_eq (largest_forget s (unkept.ne kept).symm).symm

end Grows

end Sequence

namespace Database

variable {db db' db'' : Database} {e : Entity} {ambient : Ambient}

/-! ### Tables that are written anew -/

/-- `db'` is `db` with tables of entities put in place, one after the other. -/
inductive Rewrites (db : Database) : Database → Prop
  | refl : Rewrites db db
  | put {d : Database} {t : Table} (before : Rewrites db d) (unkept : IsUnkept t.name) :
      Rewrites db (d.putTable t)

theorem Tidy.putTable (tidy : db.Tidy) {t : Table} (unkept : IsUnkept t.name) :
    (db.putTable t).Tidy := by
  refine ⟨tidy.sequences, fun u hu => ?_, List.pairwise_map.mpr (tidy.apart.imp ?_)⟩
  · obtain ⟨v, hv, rfl⟩ := List.mem_map.mp hu
    split
    · exact unkept
    · exact tidy.free v hv
  · intro u v apart
    split
    · rename_i own
      split
      · rename_i same
        rw [Text.sameFold_comm] at same
        rw [Text.sameFold_congr own, same] at apart
        cases apart
      · rwa [← Text.sameFold_congr own]
    · split
      · rename_i own
        rw [Text.sameFold_comm, ← Text.sameFold_congr own, Text.sameFold_comm]
        exact apart
      · exact apart

namespace Rewrites

theorem trans (h₁ : Rewrites db db') (h₂ : Rewrites db' db'') : Rewrites db db'' := by
  induction h₂ with
  | refl => exact h₁
  | put _ unkept ih => exact ih.put unkept

theorem tidy (h : Rewrites db db') (tidy : db.Tidy) : db'.Tidy := by
  induction h with
  | refl => exact tidy
  | put _ unkept ih => exact ih.putTable unkept

theorem sequences (h : Rewrites db db') : db'.sequences = db.sequences := by
  induction h with
  | refl => rfl
  | put _ _ ih => exact ih

end Rewrites

theorem Tidy.putAny_rewrites (tidy : db.Tidy) {t : Table} (unkept : IsUnkept t.name) :
    Rewrites db (db.putAny t) := by
  rw [putAny_free tidy unkept]
  exact .put .refl unkept

/-- Whatever follows from a row of an entity's table, only tables of entities are written. -/
theorem follow_rewrites (context : Setting) (fuel : Nat) : ∀ {db : Database} {t : Table}
    {old : Row} {new : Option Row} {db' : Database}, db.Tidy → IsUnkept t.name →
      follow context fuel db t old new = .ok db' → Rewrites db db' := by
  induction fuel with
  | zero =>
    intro db t old new db' _ _ h
    rw [follow] at h
    cases h
  | succ fuel ih =>
    intro db t old new db' tidy unkept h
    rw [follow] at h
    refine foldlM_invariant (Rewrites db) ?_ .refl h
    rintro d ⟨child, k⟩ d' mem before step
    have tidyNow := before.tidy tidy
    have own : IsUnkept (d.current child).name :=
      tidyNow.current_free (referrers_free tidy unkept mem)
    refine before.trans ?_
    simp only at step
    split at step
    · rw [← Except.ok.inj step]
      exact .refl
    · split at step
      · rw [← Except.ok.inj step]
        exact .refl
      · obtain ⟨-, step⟩ := unless_ok step
        obtain ⟨changes, -, step⟩ := bind_ok step
        -- Each row that refers to the old one goes away or changes, with what follows from that.
        refine foldlM_invariant (Rewrites d) ?_ .refl step
        intro e row e' _ before step
        have tidyThen := before.tidy tidyNow
        have ownThen := tidyThen.current_free own
        refine before.trans ?_
        split at step
        · rw [← Except.ok.inj step]
          exact .refl
        · rename_i there _
          split at step
          · have put := tidyThen.putAny_rewrites
              (t := (e.current (d.current child)).withoutRow there.number) ownThen
            exact put.trans (ih (put.tidy tidyThen) ownThen step)
          · obtain ⟨settled?, -, step⟩ := bind_ok step
            split at step
            · rw [← Except.ok.inj step]
              exact .refl
            · rename_i s
              have put := tidyThen.putAny_rewrites
                (t := { e.current (d.current child) with rows := Table.place s.row s.others })
                ownThen
              exact put.trans (ih (put.tidy tidyThen) ownThen step)

section Rows

variable {context : Setting} {t : Table}

theorem removeRows_rewrites {rows : List Row} (tidy : db.Tidy) (unkept : IsUnkept t.name)
    (h : rows.foldlM (fun db row => removeRow db context t row) db = .ok db') :
    Rewrites db db' := by
  refine foldlM_invariant (Rewrites db) ?_ .refl h
  intro d row d' _ before step
  have tidyNow := before.tidy tidy
  have own := tidyNow.current_free unkept
  refine before.trans ?_
  simp only [removeRow] at step
  split at step
  · rw [← Except.ok.inj step]
    exact .refl
  · rename_i there _
    have put := tidyNow.putAny_rewrites (t := (d.current t).withoutRow there.number) own
    exact put.trans (follow_rewrites context maxDepth (put.tidy tidyNow) own step)

theorem storeRow_rewrites {s : Settled} {old : Option Row} (tidy : db.Tidy)
    (unkept : IsUnkept t.name) (h : db.storeRow context t s old = .ok db') : Rewrites db db' := by
  rw [storeRow] at h
  obtain ⟨d, removed, h⟩ := bind_ok h
  have before := removeRows_rewrites tidy unkept removed
  have tidyNow := before.tidy tidy
  have own := tidyNow.current_free unkept
  refine before.trans ?_
  cases old with
  | none =>
    rw [← Except.ok.inj h]
    exact tidyNow.putAny_rewrites (t := (d.current t).withRow s.row) own
  | some row =>
    have put := tidyNow.putAny_rewrites
      (t := ((d.current t).withoutRow row.number).withRow s.row) own
    exact put.trans (follow_rewrites context maxDepth (put.tidy tidyNow) own h)

theorem changeNumbered_rewrites {changes : List (String × Table.Change)} {numbers : List Int}
    {rows : List Row} (tidy : db.Tidy) (unkept : IsUnkept t.name)
    (h : db.changeNumbered context t changes numbers = .ok (db', rows)) : Rewrites db db' := by
  induction numbers generalizing db t rows with
  | nil =>
    rw [changeNumbered] at h
    obtain ⟨rfl, -⟩ := Prod.mk.inj (Except.ok.inj h)
    exact .refl
  | cons n numbers ih =>
    have own := tidy.current_free unkept
    simp only [changeNumbered] at h
    split at h
    · exact ih tidy own h
    · obtain ⟨settled?, -, h⟩ := bind_ok h
      split at h
      · exact ih tidy own h
      · obtain ⟨d, stored, h⟩ := bind_ok h
        obtain ⟨⟨d', others⟩, changed, h⟩ := bind_ok h
        obtain ⟨rfl, -⟩ := Prod.mk.inj (Except.ok.inj h)
        have before := storeRow_rewrites tidy own stored
        exact before.trans (ih (before.tidy tidy) own changed)

end Rows

/-! ### The operations -/

theorem insertRow_grows {data : ValueMap} (tidy : db.Tidy) (free : IsFree e.table) :
    Sequence.Grows db.sequences (db.insertRow e data ambient).2.sequences := by
  rcases insertRow_cases db e data ambient with ⟨last, eq⟩ | ⟨t, i, found, stored⟩
  · rw [eq]
    exact .refl _
  · have unkept := tidy.free t (table?_some (insertionInto_table tidy free.unkept found).1).1
    generalize (db.insertRow e data ambient).2 = db' at stored
    have counted : ∀ d : Database, (if t.isAutoincrement then
        pure { d with sequences := Sequence.raise d.sequences t.name i.number } else pure d) =
        (.ok db' : Except Sql.Fault Database) → Sequence.Grows d.sequences db'.sequences := by
      intro d h
      split at h
      · rw [← Except.ok.inj h]
        exact .raise _ _ _
      · rw [← Except.ok.inj h]
        exact .refl _
    rw [afterInsertion] at stored
    cases settled : i.settled with
    | none =>
      rw [settled] at stored
      exact counted db stored
    | some s =>
      simp only [settled] at stored
      obtain ⟨d, placed, stored⟩ := bind_ok stored
      refine .trans (.of_eq (storeRow_rewrites tidy unkept placed).sequences) ?_
      split at stored
      · exact counted { d with lastInsert := i.number } stored
      · cases stored

theorem updateRow_sequences {key : String} {data row : ValueMap} (tidy : db.Tidy)
    (free : IsFree e.table) (h : db.updateRow e key data ambient = .ok (row, db')) :
    db'.sequences = db.sequences := by
  rcases updateRow_ok h with ⟨-, rfl⟩ | ⟨conditions, t, changed, others, -, found, changed⟩
  · rfl
  · exact (changeNumbered_rewrites tidy (needTarget_free tidy free.unkept found) changed).sequences

theorem deleteRow_sequences {key : String} (tidy : db.Tidy) (free : IsFree e.table)
    (h : db.deleteRow e key = .ok db') : db'.sequences = db.sequences := by
  obtain ⟨conditions, n, removed⟩ := deleteRow_ok h
  obtain ⟨t, rows, found, removed⟩ := deleteFrom_ok removed
  exact (removeRows_rewrites tidy (needTarget_free tidy free.unkept found) removed).sequences

theorem dropTable_grows {name : String} (tidy : db.Tidy) (h : db.dropTable name = .ok db') :
    Sequence.Grows db.sequences db'.sequences := by
  obtain ⟨⟨⟩, -, h⟩ := bind_ok h
  split at h
  · rw [← Except.ok.inj h]
    exact .refl _
  · rename_i t found
    have unkept : IsUnkept t.name := tidy.free t (table?_some found).1
    obtain ⟨d, emptied, h⟩ := bind_ok h
    have same := (removeRows_rewrites tidy unkept (mapError_ok emptied)).sequences
    obtain ⟨-, h⟩ := unless_ok h
    rw [← Except.ok.inj h]
    show Sequence.Grows db.sequences
      (if t.isAutoincrement then Sequence.forget d.sequences t.name else d.sequences)
    rw [same]
    split
    · exact .forget _ unkept
    · exact .refl _

/-- A table whose text holds no further statements is made beside the numbers. -/
theorem createTable_sequences (tidy : db.Tidy) (plain : e.tableText.further = [])
    (h : db.createTable e = .ok db') : db'.sequences = db.sequences := by
  obtain ⟨⟨⟩, passed, h⟩ := bind_ok h
  have free : IsFree e.table := refuse_ok passed
  have unkept : IsUnkept e.tableText.table := free.unkept
  obtain ⟨d, added, h⟩ := bind_ok (mapError_ok h)
  obtain ⟨d', carried, h⟩ := bind_ok h
  rw [plain] at carried
  obtain rfl : d = d' := Except.ok.inj carried
  have indexes := addIndexes_frame (tidy.addTable unkept added) h
  obtain ⟨-, spec, -, rfl⟩ := addTable_ok added
  exact indexes.sequences

theorem useIds_grows (t : EngineTable) (ids : List Int) {s : Table}
    (before : Sequence.Grows s db.sequences) : Sequence.Grows s (db.useIds t ids).sequences := by
  induction ids generalizing db with
  | nil => exact before
  | cons id rest ih => exact ih (before.trans (.raise db.sequences t.name id))

theorem createEntity_grows {draft : EntityDraft} {actor : String}
    (h : db.createEntity draft actor ambient = .ok (e, db')) :
    Sequence.Grows db.sequences db'.sequences := by
  simp only [createEntity] at h
  obtain ⟨-, h⟩ := unless_ok h
  split at h
  · cases h
  · obtain ⟨id, -, h⟩ := bind_ok h
    obtain ⟨first, -, h⟩ := bind_ok h
    obtain ⟨-, rfl⟩ := Prod.mk.inj (Except.ok.inj h)
    exact useIds_grows .fields _ (useIds_grows .definitions _ (.refl _))

theorem replaceFields_grows {id : Int} {fields : List FieldDraft} {actor : String}
    (h : db.replaceFields id fields actor ambient = .ok (e, db')) :
    Sequence.Grows db.sequences db'.sequences := by
  simp only [replaceFields] at h
  split at h
  · cases h
  · split at h
    · cases h
    · obtain ⟨-, rfl⟩ := Prod.mk.inj (Except.ok.inj h)
      exact useIds_grows .fields _ (.refl _)

theorem updateRecord_sequences {id : Int} {data : ValueMap} {actor : String} {r : Record}
    (h : db.updateRecord id data actor ambient = .ok (r, db')) :
    db'.sequences = db.sequences := by
  unfold updateRecord at h
  split at h
  · cases h
  · obtain ⟨-, rfl⟩ := Prod.mk.inj (Except.ok.inj h)
    rfl

theorem deleteRecord_sequences {id : Int} (h : db.deleteRecord id = .ok db') :
    db'.sequences = db.sequences := by
  unfold deleteRecord at h
  split at h
  · rw [← Except.ok.inj h]
  · cases h

theorem deleteRecordByKey_sequences {entityId : Int} {key : String}
    (h : db.deleteRecordByKey entityId key = .ok db') : db'.sequences = db.sequences := by
  simp only [deleteRecordByKey] at h
  split at h
  · rw [← Except.ok.inj h]
  · cases h

/-! ### Ids of documents -/

/-- The largest id that was given to a document. -/
def lastId (db : Database) : Int := Sequence.largest db.sequences EngineTable.documents.name

/-- No document has an id that was not given out. -/
structure Numbered (db : Database) : Prop where
  orderly : Sequence.IsOrderly db.sequences
  ids : ∀ r ∈ db.documents, r.id ≤ db.lastId

/-- The id was given to a document that is not there any more. -/
structure Gone (db : Database) (id : Int) : Prop where
  given : id ≤ db.lastId
  none : ∀ r ∈ db.documents, r.id ≠ id

/-- What a step comes to for the ids of documents: a document has the id of an older one, or an id
that was not given out before. -/
structure Advances (db db' : Database) : Prop where
  sequences : Sequence.Grows db.sequences db'.sequences
  ids : Sequence.IsOrderly db.sequences → ∀ r ∈ db'.documents,
    (∃ s ∈ db.documents, s.id = r.id) ∨ (db.lastId < r.id ∧ r.id ≤ db'.lastId)

namespace Advances

/-- A step that stores no new document. -/
theorem of_ids (sequences : Sequence.Grows db.sequences db'.sequences)
    (ids : ∀ r ∈ db'.documents, ∃ s ∈ db.documents, s.id = r.id) : Advances db db' :=
  ⟨sequences, fun _ r hr => Or.inl (ids r hr)⟩

theorem of_documents (sequences : Sequence.Grows db.sequences db'.sequences)
    (documents : db'.documents = db.documents) : Advances db db' := by
  refine of_ids sequences fun r hr => ⟨r, ?_, rfl⟩
  rwa [documents] at hr

theorem refl (db : Database) : Advances db db := of_documents (.refl _) rfl

theorem lastId_le (h : Advances db db') (numbered : db.Numbered) : db.lastId ≤ db'.lastId :=
  h.sequences.largest numbered.orderly _ (Or.inl (by decide))

theorem numbered (h : Advances db db') (numbered : db.Numbered) : db'.Numbered := by
  refine ⟨h.sequences.orderly numbered.orderly, fun r hr => ?_⟩
  rcases h.ids numbered.orderly r hr with ⟨s, hs, same⟩ | ⟨-, inside⟩
  · rw [← same]
    exact Int.le_trans (numbered.ids s hs) (h.lastId_le numbered)
  · exact inside

theorem gone (h : Advances db db') (numbered : db.Numbered) {id : Int} (gone : db.Gone id) :
    db'.Gone id := by
  refine ⟨Int.le_trans gone.given (h.lastId_le numbered), fun r hr same => ?_⟩
  rcases h.ids numbered.orderly r hr with ⟨s, hs, older⟩ | ⟨larger, -⟩
  · exact gone.none s hs (older.trans same)
  · rw [same] at larger
    exact Int.not_le.mpr larger gone.given

end Advances

theorem empty_numbered : empty.Numbered where
  orderly := List.Pairwise.nil
  ids := by intro r hr; cases hr

/-- Changes and removals leave each document its id. -/
theorem DocumentMove.ids {adds named : Record → Prop} {documents : List Record}
    (move : db.DocumentMove adds named documents) (none : ∀ r, ¬ adds r) :
    ∀ r ∈ documents, ∃ s ∈ db.documents, s.id = r.id := by
  intro r hr
  cases move with
  | same => exact ⟨r, hr, rfl⟩
  | added new _ _ _ _ => exact absurd new (none _)
  | changed hs _ same =>
    obtain ⟨x, hx, rfl⟩ := List.mem_map.mp hr
    refine ⟨x, hx, ?_⟩
    split
    · rename_i own
      exact own.trans same.id.symm
    · rfl
  | removed _ => exact ⟨r, (List.mem_filter.mp hr).1, rfl⟩

/-- A new document has an id past all that were given out. -/
theorem insertRecord_id {entityId appId : Int} {code actor : String} {data : ValueMap} {r : Record}
    (h : db.insertRecord entityId code appId data actor ambient = .ok (r, db')) :
    db.lastId < r.id ∧ Advances db db' := by
  obtain ⟨id, next, h⟩ := bind_ok h
  obtain ⟨-, h⟩ := unless_ok h
  obtain ⟨-, h⟩ := unless_ok h
  obtain ⟨rfl, rfl⟩ := Prod.mk.inj (Except.ok.inj h)
  have larger : db.lastId < id := by
    have most := (le_foldl_max db.lastId (db.documents.map Record.id)).1
    have next := mapError_ok next
    simp only [nextId] at next
    split at next
    · cases next
    · rw [← Except.ok.inj next]
      exact Int.lt_add_one_of_le most
  refine ⟨larger, .raise _ _ _, fun orderly s hs => ?_⟩
  rw [useIds_documents] at hs
  rcases List.mem_append.mp hs with older | own
  · exact Or.inl ⟨s, older, rfl⟩
  · refine Or.inr ?_
    rw [List.mem_singleton.mp own]
    refine ⟨larger, ?_⟩
    show id ≤ Sequence.largest (Sequence.raise db.sequences EngineTable.documents.name id)
      EngineTable.documents.name
    rw [Sequence.largest_raise orderly, if_pos rfl]
    exact Int.le_max_left _ _

end Database

end Store

end EntityEngine
