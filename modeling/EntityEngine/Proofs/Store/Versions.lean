import EntityEngine.Proofs.Store.ColumnValue

/-! Versions in the store. A new definition, document or row of a template starts with version 1; an
update adds one to the version of the one that it is made to, and nothing else changes a version. -/

namespace EntityEngine.Store

open Sql

namespace Table

variable {t u : Table} {m e : Entity} {key : String} {rows : List Row}

/-! ### Rows of a template -/

namespace IsBuiltFrom

theorem holds_recordId (h : t.IsBuiltFrom m) (template : m.layout = .template) :
    ∃ i, t.Holds "record_id" i recordIdColumn :=
  h.holds_of_mem template (c := ⟨"record_id", "VARCHAR(32)", [.notNull, .unique], none⟩)
    (mem_systemColumn template (by simp [systemColumnTexts])) (by decide)

/-- The column of the versions. -/
def versionColumn : Column :=
  columnOf (ColumnText.spec
    { name := "version", type := "INT", constraints := [.notNull, .default (.number "1")] })

theorem holds_version (h : t.IsBuiltFrom m) (template : m.layout = .template) :
    ∃ i, t.Holds "version" i versionColumn :=
  h.holds_of_mem template
    (c := ⟨"version", "INT", [.notNull, .default (.number "1")], none⟩)
    (mem_systemColumn template (by simp [systemColumnTexts])) (by decide)

theorem versionColumn_affinity : versionColumn.affinity = .integer := by decide

end IsBuiltFrom

theorem number_mem_keys (t : Table) : Key.number ∈ t.keys := by
  unfold keys
  simp only
  split <;> simp

theorem place_perm (row : Row) (rows : List Row) : (place row rows).Perm (row :: rows) := by
  induction rows with
  | nil => exact .refl _
  | cons r rows ih =>
    unfold place
    split
    · exact .refl _
    · exact (ih.cons r).trans (.swap row r rows)

/-- A write keeps the numbers of rows apart. -/
theorem RowsMove.numbers {statement : Statement} (move : t.RowsMove statement rows)
    (once : (t.rows.map Row.number).Nodup) : (rows.map Row.number).Nodup := by
  cases move with
  | removed number => exact once.sublist (List.filter_sublist.map _)
  | @stored _ row others stores apart _ _ =>
    have kept : (others.map Row.number).Nodup := by
      cases stores with
      | new _ _ => exact once
      | changed _ _ => exact once.sublist (List.filter_sublist.map _)
    rw [((place_perm row others).map Row.number).nodup_iff, List.map_cons, List.nodup_cons]
    refine ⟨fun mem => ?_, kept⟩
    obtain ⟨r, hr, same⟩ := List.mem_map.mp mem
    have other := apart _ t.number_mem_keys r hr
    simp [shares, same] at other

/-- Rows are there as they were, but for new ones, whose identifiers no row had, with version 1. -/
def Renews (t u : Table) : Prop :=
  ∀ r ∈ u.rows, r ∈ t.rows ∨ t.valueOf r "version" = .integer 1 ∧
    ∀ key, t.valueOf r "record_id" = .text key → ∀ s ∈ t.rows, t.valueOf s "record_id" ≠ .text key

/-- A statement that gives new rows version 1, and updates none. -/
def Starts : Statement → Prop
  | .insert given => given? given IsBuiltFrom.versionColumn = some (.integer 1)
  | .update _ => False
  | .delete => True

theorem valueOf_congr (same : u.bare = t.bare) (row : Row) (name : String) :
    u.valueOf row name = t.valueOf row name := by
  show u.bare.valueOf row name = t.bare.valueOf row name
  rw [same]

namespace IsBuiltFrom

theorem renews (h : t.IsBuiltFrom m) (template : m.layout = .template) (orderly : t.IsOrderly)
    {statement : Statement} (starts : Starts statement) (move : t.RowsMove statement rows) :
    t.Renews { t with rows } := by
  have moved := move.orderly orderly
  cases move with
  | removed number => exact fun r hr => Or.inl (List.mem_filter.mp hr).1
  | @stored _ row others stores apart _ _ =>
    cases stores with
    | changed _ _ => exact starts.elim
    | @new _ context _ number values next found =>
      intro r hr
      rcases mem_place.mp hr with rfl | old
      · obtain ⟨i, holds⟩ := h.holds_version template
        refine Or.inr ⟨?_, fun key own s hs other => ?_⟩
        · rw [holds.new starts found, versionColumn_affinity]
          rfl
        · -- Rows of one identifier are one, but the new row has a number of its own.
          have built := h.of_bare (t := { t with
            rows := place ⟨number, t.numbered number values⟩ t.rows }) rfl
          have same := built.eq_of_recordId template moved hr (mem_place.mpr (Or.inr hs)) own other
          have numbers := apart _ t.number_mem_keys s hs
          rw [same] at numbers
          simp [shares] at numbers
      · exact Or.inl old

/-- An identifier stands for one row of a template at most. -/
theorem numbersOf_recordId (h : t.IsBuiltFrom m) (template : m.layout = .template)
    (orderly : t.IsOrderly) (once : (t.rows.map Row.number).Nodup) (key : String) :
    t.numbersOf [.compare (.column "record_id") .eq (.text key)] = [] ∨
      ∃ row ∈ t.rows, t.valueOf row "record_id" = .text key ∧
        t.numbersOf [.compare (.column "record_id") .eq (.text key)] = [row.number] := by
  unfold numbersOf matching
  cases found : t.rows.filter fun r =>
      (t.reader r).satisfiesAll [.compare (.column "record_id") .eq (.text key)] with
  | nil => exact Or.inl rfl
  | cons row others =>
    have all : ∀ r ∈ row :: others, r ∈ t.rows ∧ t.valueOf r "record_id" = .text key := by
      intro r hr
      rw [← found, List.mem_filter] at hr
      exact ⟨hr.1, (h.satisfies_recordId orderly template hr.1).mp hr.2⟩
    obtain ⟨hrow, own⟩ := all row List.mem_cons_self
    have apart : ((row :: others).map Row.number).Nodup := by
      rw [← found]
      exact once.sublist (List.filter_sublist.map _)
    cases others with
    | nil => exact Or.inr ⟨row, hrow, own, rfl⟩
    | cons other rest =>
      obtain ⟨hother, own'⟩ := all other (by simp)
      rw [h.eq_of_recordId template orderly hrow hother own own'] at apart
      simp at apart

end IsBuiltFrom

/-! ### What definitions write -/

theorem starts_newValues (layout : e.layout = .template) (data : ValueMap) (ambient : Ambient) :
    Starts (.insert (newValues e data ambient)) := by
  have names : Text.sameFold "record_id" IsBuiltFrom.versionColumn.name = false ∧
      Text.sameFold "created_at" IsBuiltFrom.versionColumn.name = false ∧
      Text.sameFold "updated_at" IsBuiltFrom.versionColumn.name = false ∧
      Text.sameFold "version" IsBuiltFrom.versionColumn.name = true := by decide
  simp only [Starts, given?, newValues, layout, systemValues, List.cons_append, List.find?_cons,
    names]
  rfl

/-- In the columns beside the fields of a template, an update of it counts the version on and tells
the time. -/
theorem find?_reverse_append {α : Type} {p : α → Bool} {front back : List α}
    (others : ∀ x ∈ back, p x = false) :
    (front ++ back).reverse.find? p = front.reverse.find? p := by
  have none : back.reverse.find? p = none :=
    List.find?_eq_none.mpr fun x hx => Bool.not_eq_true _ ▸ others x (List.mem_reverse.mp hx)
  rw [List.reverse_append, List.find?_append, none, Option.none_or]

theorem changedValue_rowChanges (layout : e.layout = .template) (own : e.HasOwnNames)
    (data : ValueMap) (ambient : Ambient) {c : Column} (system : c.name ∈ systemColumns)
    (v : Value) : changedValue (Database.rowChanges e data ambient) c v = changedValue
      [("version", .increment), ("updated_at", .set (.text ambient.now.stored))] c v := by
  rw [changedValue, changedValue, Database.rowChanges, layout, find?_reverse_append]
  intro p hp
  obtain ⟨q, hq, rfl⟩ := List.mem_map.mp hp
  obtain ⟨f, hf, name⟩ := mem_givenValues hq
  show Text.sameFold q.1 c.name = false
  rw [← name]
  exact not_sameFold_of_isSystemColumn (own layout f hf) system

theorem changedValue_recordId (layout : e.layout = .template) (own : e.HasOwnNames)
    (data : ValueMap) (ambient : Ambient) (v : Value) :
    changedValue (Database.rowChanges e data ambient) IsBuiltFrom.recordIdColumn v = v := by
  have others : Text.sameFold "version" IsBuiltFrom.recordIdColumn.name = false ∧
      Text.sameFold "updated_at" IsBuiltFrom.recordIdColumn.name = false := by decide
  rw [changedValue_rowChanges layout own data ambient (by decide), changedValue]
  simp [others]

theorem changedValue_version (layout : e.layout = .template) (own : e.HasOwnNames)
    (data : ValueMap) (ambient : Ambient) {n : Int} (fits : Number.inInt64 (n + 1) = true) :
    changedValue (Database.rowChanges e data ambient) IsBuiltFrom.versionColumn (.integer n) =
      .integer (n + 1) := by
  have others : Text.sameFold "version" IsBuiltFrom.versionColumn.name = true ∧
      Text.sameFold "updated_at" IsBuiltFrom.versionColumn.name = false := by decide
  have sum : Arithmetic.add.apply (.integer n) (.integer 1) = .integer (n + 1) := by
    show Arithmetic.add.fitted n 1 (n + 1) = _
    rw [Arithmetic.fitted, fits, if_pos rfl]
  rw [changedValue_rowChanges layout own data ambient (by decide), changedValue]
  simp only [List.reverse_cons, List.reverse_nil, List.nil_append, List.cons_append, List.find?_cons,
    others, Change.apply, sum, IsBuiltFrom.versionColumn_affinity]
  rfl

/-- A row that is updated keeps its identifier and counts its version on, and the others stay. -/
theorem IsBuiltFrom.storing_versions (h : t.IsBuiltFrom m) (same : m.layout = e.layout)
    (layout : e.layout = .template) (own : e.HasOwnNames) (orderly : t.IsOrderly) {data : ValueMap}
    {ambient : Ambient} {old next : Row} (hold : old ∈ t.rows)
    (named : t.valueOf old "record_id" = .text key)
    (made : t.changedRow (Database.rowChanges e data ambient) old = .ok next) :
    (∀ n, t.valueOf old "version" = .integer n → Number.inInt64 (n + 1) = true →
        t.valueOf next "version" = .integer (n + 1)) ∧
      t.valueOf next "record_id" = .text key ∧
      ∀ r ∈ (t.storing next (some old)).rows, r = next ∨
        r ∈ t.rows ∧ t.valueOf r "record_id" ≠ .text key := by
  have template := same.trans layout
  obtain ⟨i, identifier⟩ := h.holds_recordId template
  obtain ⟨j, version⟩ := h.holds_version template
  refine ⟨fun n value fits => ?_, ?_, fun r hr => ?_⟩
  · rw [version.changed made value Value.noConfusion]
    exact changedValue_version layout own data ambient fits
  · rw [identifier.changed made named Value.noConfusion]
    exact changedValue_recordId layout own data ambient _
  · rcases mem_place.mp hr with rfl | other
    · exact Or.inl rfl
    · obtain ⟨hr, ne⟩ := List.mem_filter.mp other
      refine Or.inr ⟨hr, fun same => ?_⟩
      rw [h.eq_of_recordId template orderly hr hold same named] at ne
      simp at ne

end Table

namespace Database

variable {db db' : Database} {t : Table} {m e : Entity} {key : String} {ambient : Ambient}

/-- An update of one row puts it, changed, in its place. -/
theorem changeNumbered_one {context : Setting} {changes : List (String × Table.Change)} {old : Row}
    (tidy : db.Tidy) (simple : db.IsSimple) (orderly : t.IsOrderly)
    (there : db.table? t.name = some t) (hold : old ∈ t.rows) :
    db.changeNumbered context t changes [old.number] = (t.replacement context changes old).map
      fun next => (db.putTable (t.storing next (some old)), [next]) := by
  have found : t.row? old.number = some old := by
    cases found : t.row? old.number with
    | none =>
      have other := List.find?_eq_none.mp found old hold
      simp at other
    | some row =>
      have hr : row ∈ t.rows := List.mem_of_find?_eq_some found
      rw [orderly.eq_of_number hr hold (by simpa using List.find?_some found)]
  rw [changeNumbered_cons tidy simple there, found]
  simp only
  cases t.replacement context changes old with
  | error f => rfl
  | ok next =>
    simp only [changeNumbered, bind, Except.bind, Except.map]
    rfl

/-- An update of a template changes the row that the identifier stands for, and no other one. -/
theorem updateRow_template {data : ValueMap} {row : ValueMap} (tidy : db.Tidy)
    (simple : db.IsSimple) (free : IsFree e.table) (there : db.table? e.table = some t)
    (orderly : t.IsOrderly) (once : (t.rows.map Row.number).Nodup) (own : t.IsBuiltFrom m)
    (same : m.layout = e.layout) (template : e.layout = .template)
    (h : db.updateRow e key data ambient = .ok (row, db')) :
    ∃ old ∈ t.rows, t.valueOf old "record_id" = .text key ∧
      ∃ next, t.changedRow (rowChanges e data ambient) old = .ok next ∧
        db' = db.putTable (t.storing next (some old)) := by
  have place := tidy.table?_of_mem (table?_some there).1
  rcases updateRow_ok h with ⟨idle, -⟩ | ⟨conditions, target, first, others, named, needed, changed⟩
  · -- The version of a template is counted on in any case.
    rw [rowChanges, template] at idle
    cases idle
  · rw [keyConditions?_template template] at named
    obtain rfl := Option.some.inj named
    obtain rfl : target = t :=
      Option.some.inj ((needTarget_table tidy free.unkept needed).symm.trans there)
    rcases own.numbersOf_recordId (same.trans template) orderly once key with
      none | ⟨old, hold, named, one⟩
    · rw [none] at changed
      cases Except.ok.inj changed
    · rw [one, changeNumbered_one tidy simple orderly place hold] at changed
      obtain ⟨next, replaced, eq⟩ := map_ok changed
      have made := (Table.replacement_ok (simple _ (table?_some there).1) hold replaced).1
      exact ⟨old, hold, named, next, made, (Prod.mk.inj eq).1.symm⟩

/-- A statement that updates no row leaves the versions of a template as they are. -/
theorem RowWrite.renews {name : String} {statement : Statement}
    (write : RowWrite name statement db db') (orderly : db.IsOrderly)
    (there : db.table? name = some t) (own : t.IsBuiltFrom m) (template : m.layout = .template)
    (starts : Table.Starts statement) :
    ∃ u, db'.table? name = some u ∧ u.bare = t.bare ∧ t.Renews u := by
  induction write with
  | refl => exact ⟨t, there, rfl, fun r hr => Or.inl hr⟩
  | counted _ _ _ ih => exact ih
  | @put d u rows before once now move ih =>
    refine ⟨{ u with rows }, table?_putTable (u := { u with rows }) now rfl, ?_⟩
    obtain ⟨v, found, bare, renews⟩ := ih
    obtain rfl := Option.some.inj (found.symm.trans now)
    refine ⟨bare, ?_⟩
    have step := (own.of_bare bare).renews template (before.orderly orderly _ (table?_some now).1)
      starts move
    cases statement with
    | update _ => exact starts.elim
    | insert given =>
      -- A new row is stored before anything else is done.
      rw [once trivial] at now
      obtain rfl := Option.some.inj (now.symm.trans there)
      exact step
    | delete =>
      intro r hr
      cases move with
      | removed number => exact renews r (List.mem_filter.mp hr).1
      | stored stores _ _ _ => cases stores

/-- The numbers of rows stay apart, whatever a statement does. -/
theorem RowWrite.numbers {name : String} {statement : Statement}
    (write : RowWrite name statement db db')
    (once : ∀ t, db.table? name = some t → (t.rows.map Row.number).Nodup) :
    ∀ u, db'.table? name = some u → (u.rows.map Row.number).Nodup := by
  induction write with
  | refl => exact once
  | counted _ _ _ ih => exact ih
  | @put d t rows _ _ now move ih =>
    intro u there
    rw [table?_putTable (u := { t with rows }) now rfl] at there
    rw [← Option.some.inj there]
    exact move.numbers (ih t now)

/-! ### Definitions and documents -/

/-- Whatever has an id in the second list had it in the first one, where its version is counted on
if it is the one that is updated, or it is new and has version 1. -/
def Revises (updated : Option Int) (old new : List (Int × Int)) : Prop :=
  ∀ x ∈ new, (∃ v, (x.1, v) ∈ old ∧ x.2 = if updated = some x.1 then v + 1 else v) ∨
    x.2 = 1 ∧ ∀ y ∈ old, y.1 ≠ x.1

theorem Revises.of_subset {old new : List (Int × Int)} (less : ∀ x ∈ new, x ∈ old) :
    Revises none old new := fun x hx => Or.inl ⟨x.2, less x hx, rfl⟩

theorem Revises.refl (old : List (Int × Int)) : Revises none old old := .of_subset fun _ hx => hx

theorem Revises.append {old : List (Int × Int)} {id : Int} (new : ∀ y ∈ old, y.1 ≠ id) :
    Revises none old (old ++ [(id, 1)]) := by
  intro x hx
  rcases List.mem_append.mp hx with hx | hx
  · exact Or.inl ⟨x.2, hx, rfl⟩
  · obtain rfl := List.mem_singleton.mp hx
    exact Or.inr ⟨rfl, new⟩

/-- One more than what is counted was the version, and so it is again. -/
theorem Revises.counted {updated : Option Int} {old new : List (Int × Int)} {id v : Int} {n : Nat}
    (h : Revises updated old new) (mem : (id, v) ∈ new) (before : ∀ w, (id, w) ∈ old → w = 1 + n) :
    v = 1 + (if old.any fun x => x.1 = id then if updated = some id then n + 1 else n else 0 : Nat) :=
    by
  rcases h (id, v) mem with ⟨w, there, eq⟩ | ⟨rfl, new⟩
  · have present : (old.any fun x => x.1 = id) = true := List.any_eq_true.mpr ⟨_, there, by simp⟩
    have first := before w there
    simp only at eq
    rw [present, if_pos rfl, eq]
    split <;> omega
  · have absent : (old.any fun x => x.1 = id) = false :=
      List.any_eq_false.mpr fun x hx => by simpa using new x hx
    rw [absent]
    rfl

/-- The ids and the versions of the documents. -/
def documentVersions (db : Database) : List (Int × Int) :=
  db.documents.map fun r => (r.id, r.version)

/-- The ids and the versions of the definitions, deleted or not. -/
def definitionVersions (db : Database) : List (Int × Int) :=
  db.entities.map fun e => (e.id, e.version)

theorem mem_documentVersions {id v : Int} :
    (id, v) ∈ db.documentVersions ↔ ∃ r ∈ db.documents, r.id = id ∧ r.version = v := by
  simp [documentVersions]

theorem mem_definitionVersions {id v : Int} :
    (id, v) ∈ db.definitionVersions ↔ ∃ e ∈ db.entities, e.id = id ∧ e.version = v := by
  simp [definitionVersions]

theorem insertRecord_revises {entityId appId : Int} {code actor : String} {data : ValueMap}
    {r : Record} (h : db.insertRecord entityId code appId data actor ambient = .ok (r, db')) :
    Revises none db.documentVersions db'.documentVersions := by
  have last := lt_insertRecord h
  obtain ⟨id, -, h⟩ := bind_ok h
  obtain ⟨-, h⟩ := unless_ok h
  obtain ⟨-, h⟩ := unless_ok h
  obtain ⟨rfl, rfl⟩ := Prod.mk.inj (Except.ok.inj h)
  unfold documentVersions
  rw [useIds_documents, List.map_append]
  refine .append fun y hy => ?_
  obtain ⟨s, hs, rfl⟩ := List.mem_map.mp hy
  exact Int.ne_of_lt (last s hs)

theorem updateRecord_revises {id : Int} {actor : String} {data : ValueMap} {r : Record}
    (h : db.updateRecord id data actor ambient = .ok (r, db')) :
    r.id = id ∧ Revises (some id) db.documentVersions db'.documentVersions := by
  unfold updateRecord at h
  split at h
  · cases h
  · rename_i s found
    obtain ⟨rfl, rfl⟩ := Prod.mk.inj (Except.ok.inj h)
    have hs := List.mem_of_find?_eq_some found
    have own : s.id = id := by simpa using List.find?_some found
    refine ⟨own, fun x hx => Or.inl ?_⟩
    obtain ⟨y, hy, rfl⟩ := List.mem_map.mp hx
    obtain ⟨o, ho, rfl⟩ := List.mem_map.mp hy
    simp only [mem_documentVersions]
    by_cases meant : o.id = id
    · rw [if_pos meant]
      exact ⟨s.version, ⟨s, hs, rfl, rfl⟩, (if_pos (congrArg some own.symm)).symm⟩
    · rw [if_neg meant]
      exact ⟨o.version, ⟨o, ho, rfl, rfl⟩,
        (if_neg fun same => meant (Option.some.inj same).symm).symm⟩

theorem deleteRecord_revises {id : Int} (h : db.deleteRecord id = .ok db') :
    Revises none db.documentVersions db'.documentVersions := by
  unfold deleteRecord at h
  split at h
  · rw [← Except.ok.inj h]
    exact .of_subset fun x hx => (List.filter_sublist.map _).subset hx
  · cases h

theorem deleteRecordByKey_revises {entityId : Int} (h : db.deleteRecordByKey entityId key = .ok db') :
    Revises none db.documentVersions db'.documentVersions := by
  simp only [deleteRecordByKey] at h
  split at h
  · rw [← Except.ok.inj h]
    exact .of_subset fun x hx => (List.filter_sublist.map _).subset hx
  · cases h

/-- A change of a definition that is none of its fields keeps the versions. -/
theorem definitionVersions_changeEntity {id : Int} {change : Entity → Entity}
    (keeps : ∀ e, (change e).id = e.id ∧ (change e).version = e.version) :
    (db.changeEntity id change).definitionVersions = db.definitionVersions := by
  rw [definitionVersions, changeEntity, List.map_map]
  refine List.map_congr_left fun e _ => ?_
  show ((if e.id = id then change e else e).id, (if e.id = id then change e else e).version) = _
  split
  · rw [(keeps e).1, (keeps e).2]
  · rfl

theorem definitionVersions_marked (db : Database) (id : Int) (created : Bool) :
    (db.marked id created).definitionVersions = db.definitionVersions :=
  definitionVersions_changeEntity fun _ => ⟨rfl, rfl⟩

theorem softDelete_versions {id : Int} {actor : String}
    (h : db.softDelete id actor ambient = .ok (e, db')) :
    db'.definitionVersions = db.definitionVersions := by
  unfold softDelete at h
  split at h
  · cases h
  · obtain ⟨-, rfl⟩ := Prod.mk.inj (Except.ok.inj h)
    exact definitionVersions_changeEntity fun _ => ⟨rfl, rfl⟩

theorem createEntity_revises {draft : EntityDraft} {actor : String}
    (h : db.createEntity draft actor ambient = .ok (e, db')) :
    Revises none db.definitionVersions db'.definitionVersions := by
  have c := created_of_createEntity h
  have first : e.version = 1 := by
    simp only [createEntity] at h
    obtain ⟨-, h⟩ := unless_ok h
    split at h
    · cases h
    · obtain ⟨id, -, h⟩ := bind_ok h
      obtain ⟨field, -, h⟩ := bind_ok h
      rw [← (Prod.mk.inj (Except.ok.inj h)).1]
  unfold definitionVersions
  rw [c.entities, List.map_append, List.map_singleton, first]
  refine .append fun y hy => ?_
  obtain ⟨d, hd, rfl⟩ := List.mem_map.mp hy
  exact c.id_ne hd

theorem Replaced.revises {id : Int} {fields : List FieldDraft} {e' : Entity}
    (r : db.Replaced id fields e e' db') (unique : db.Unique) :
    Revises (some id) db.definitionVersions db'.definitionVersions := by
  obtain ⟨he, rfl⟩ := unique.entity?_iff.mp r.found
  obtain ⟨first, audit, audit', eq⟩ := r.changed
  intro x hx
  unfold definitionVersions at hx
  rw [(r.frame True).entities trivial] at hx
  obtain ⟨d', hd', rfl⟩ := List.mem_map.mp hx
  obtain ⟨d, hd, rfl⟩ := mem_changeEntity.mp hd'
  refine Or.inl ?_
  simp only [mem_definitionVersions]
  by_cases own : d.id = e.id
  · rw [if_pos own, eq]
    exact ⟨e.version, ⟨e, (Database.mem_live.mp he).1, rfl, rfl⟩, (if_pos rfl).symm⟩
  · rw [if_neg own]
    exact ⟨d.version, ⟨d, hd, rfl, rfl⟩,
      (if_neg fun same => own (Option.some.inj same).symm).symm⟩

end Database

end EntityEngine.Store
