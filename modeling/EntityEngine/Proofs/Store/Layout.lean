import EntityEngine.Proofs.Query.ColumnNames
import EntityEngine.Proofs.Store.FieldColumn
import EntityEngine.Proofs.Store.OwnStatements
import EntityEngine.Proofs.Store.Stamps

/-! The columns of a definition, in three places that tell them apart from each other: the checks of
a draft, the statement that makes the table, and the queries. They agree. The names that are
accepted are apart, the statement has one column for each of them and one primary key, and a query
looks for a column exactly under the names that the statement has. -/

namespace EntityEngine

open Sql Store

/-! ### Names that are accepted -/

section

variable {layout : Layout} {earlier names : List String}

/-- Names that are apart are not refused as repeated. -/
theorem Sql.repeatedColumn?_of_distinct (distinct : (names.map Text.fold).Nodup)
    (apart : ∀ a ∈ names, ∀ b ∈ earlier, Text.fold a ≠ Text.fold b) :
    repeatedColumn? earlier names = none := by
  induction names generalizing earlier with
  | nil => rfl
  | cons c names ih =>
    rw [List.map_cons, List.nodup_cons] at distinct
    have new : earlier.any (Text.sameFold c) = false := by
      refine List.any_eq_false.mpr fun b hb same => ?_
      exact apart c List.mem_cons_self b hb (Text.sameFold_iff.mp same)
    rw [repeatedColumn?, new, if_neg Bool.false_ne_true]
    refine ih distinct.2 fun a ha b hb => ?_
    rcases List.mem_cons.mp hb with rfl | hb
    · exact fun same => distinct.1 (List.mem_map.mpr ⟨a, ha, same⟩)
    · exact apart a (List.mem_cons_of_mem c ha) b hb

/-- The checks of a draft refuse names that a statement would refuse as repeated. -/
theorem repeatedColumn?_of_namesDefect? (h : namesDefect? layout earlier names = none) :
    repeatedColumn? earlier names = none := by
  induction names generalizing earlier with
  | nil => rfl
  | cons name names ih =>
    rw [namesDefect?] at h
    split at h
    · cases h
    · rename_i own
      have new : earlier.any (Text.sameFold name) = false := by
        unfold nameDefect? at own
        repeat' split at own
        all_goals simp_all
      rw [repeatedColumn?, new, if_neg Bool.false_ne_true]
      exact ih h

end

section

variable {fields : List FieldDraft} {layout : Layout}

/-- The names of valid fields are apart, white space at their ends left out. -/
theorem distinct_of_validateFields (h : validateFields fields layout = .ok ()) :
    ((fields.map fun f => Text.trim f.name).map Text.fold).Nodup := by
  have none := refuse_ok h
  unfold fieldsDefect? at none
  split at none
  · cases none
  · split at none
    · cases none
    · rename_i names
      exact (distinct_of_repeatedColumn? (repeatedColumn?_of_namesDefect? names)).1

/-- Valid fields of a native table have a key among them. -/
theorem exists_key_of_validateFields (h : validateFields fields .native = .ok ()) :
    ∃ f ∈ fields, f.isKey = true := by
  have none := refuse_ok h
  unfold fieldsDefect? at none
  split at none
  · cases none
  · split at none
    · cases none
    · unfold keysDefect? at none
      simp only at none
      split at none
      · cases none
      · rename_i some
        exact List.countP_pos_iff.mp (Nat.pos_of_ne_zero some)

end

/-! ### The statement -/

namespace Sql

/-- The primary keys that a statement tells, at its columns and beside them. -/
def TableText.primaryKeys (t : TableText) : List (List String) :=
  ((t.columns.filter fun c => c.constraints.contains .autoKey).map fun c => [c.name]) ++
    if t.primaryKey.isEmpty then [] else [t.primaryKey]

/-- The primary keys that are declared: the number of the row, and keys of columns. -/
def TableSpec.primaryKeys (s : TableSpec) : List (List String) :=
  s.numberColumn.toList.map (fun c => [c]) ++
    (s.uniques.filter UniqueSpec.isPrimary).map fun u => u.columns.map KeyColumn.name

/-- One primary key that a statement tells is the one that is declared, as the number of the row or
as a key of columns. -/
theorem TableText.primaryKeys_of_plainSpec {t : TableText} {s : TableSpec} {key : List String}
    (declared : t.plainSpec = .ok s) (one : t.primaryKeys = [key]) : s.primaryKeys = [key] := by
  obtain ⟨-, rfl⟩ := plainSpec_ok declared
  have ofColumns : ((t.columns.filter fun c => c.constraints.contains .unique).map
      fun c => ({ columns := [{ name := c.name }] } : UniqueSpec)).filter
        UniqueSpec.isPrimary = [] := by
    refine List.filter_eq_nil_iff.mpr fun u hu => ?_
    obtain ⟨c, -, rfl⟩ := List.mem_map.mp hu
    exact Bool.false_ne_true
  simp only [TableSpec.primaryKeys, uniques, List.filter_append, ofColumns, List.nil_append]
  unfold primaryKeys at one
  have first := List.head?_filter (l := t.columns) (p := fun c => c.constraints.contains .autoKey)
  cases told : t.columns.filter fun c => c.constraints.contains .autoKey with
  | nil =>
    rw [told] at one first
    have beside : t.primaryKey.isEmpty = false ∧ t.primaryKey = key := by
      cases none : t.primaryKey.isEmpty <;> simp_all
    cases number : t.numberColumn? with
    | none =>
      simp only [beside.1, Option.isSome_none, Bool.or_self, Bool.false_eq_true, if_false]
      simp [beside.2, Function.comp_def]
    | some c =>
      -- The only column of the key is the number of the row.
      have same : t.primaryKey = [c] := by
        unfold numberColumn? at number
        rw [← first] at number
        simp only [List.head?_nil] at number
        split at number
        · rename_i name only
          split at number
          · rw [only, Option.some.inj number]
          · cases number
        · cases number
      simp [← beside.2, same]
  | cons c cs =>
    rw [told] at one first
    have number : t.numberColumn? = some c.name := by
      unfold numberColumn?
      rw [← first]
      rfl
    rw [List.map_cons, List.cons_append, List.cons.injEq] at one
    simp [number, ← one.1]

end Sql

/-- The statement of a definition has the columns of the definition, in order. No two of them have
one name, whatever the case of its letters, and there is one primary key: `id` in a template, the key
fields in their order in a native table. Key fields are never null, and in a template each of them is
unique by itself. -/
structure Entity.IsLaidOut (e : Entity) : Prop where
  columns : e.tableText.columns.map ColumnText.name = e.columns
  apart : (e.columns.map Text.fold).Nodup
  key : e.tableText.primaryKeys = [e.primaryKey]
  keyed : e.primaryKey ≠ []
  fields : ∀ f ∈ e.keys, ∃ c ∈ e.tableText.columns, c.name = f.name ∧ .notNull ∈ c.constraints ∧
    (e.layout = .template → .unique ∈ c.constraints)

/-- The same of what a statement declares. -/
structure Sql.TableSpec.IsLayoutOf (s : TableSpec) (e : Entity) : Prop where
  columns : s.columns.map ColumnSpec.name = e.columns
  key : s.primaryKeys = [e.primaryKey]
  fields : ∀ f ∈ e.keys, ∃ c ∈ s.columns, c.name = f.name ∧ c.notNull = some .abort ∧
    (e.layout = .template → ∃ u ∈ s.uniques, u.columns = [{ name := f.name }])

namespace Entity

variable {e : Entity} {fields : List FieldDraft} {id first : Int} {audit : Audit}

theorem perm_of_stored (stored : e.fields = sortFields (storedFields id first e.layout audit fields)) :
    e.fields.Perm (storedFields id first e.layout audit fields) := by
  rw [stored]
  exact List.mergeSort_perm _ _

/-- The names of fields are apart, and apart from those of system columns. -/
theorem distinct_columns (valid : validateFields fields e.layout = .ok ())
    (stored : e.fields = sortFields (storedFields id first e.layout audit fields)) :
    (e.columns.map Text.fold).Nodup := by
  have names : (storedFields id first e.layout audit fields).map Field.name =
      fields.map fun f => Text.trim f.name := by
    have own : Field.name ∘ (fun p : FieldDraft × Nat =>
        storedField id (first + p.2) e.layout audit p.2 p.1) =
          (fun f : FieldDraft => Text.trim f.name) ∘ Prod.fst := rfl
    rw [storedFields, List.map_map, own, ← List.map_map, List.zipIdx_map_fst]
  have distinct : ((e.fields.map Field.name).map Text.fold).Nodup := by
    rw [(((perm_of_stored stored).map Field.name).map Text.fold).nodup_iff, names]
    exact distinct_of_validateFields valid
  have own : e.HasOwnNames := .of_stored valid stored
  unfold columns
  cases layout : e.layout with
  | native => exact distinct
  | template =>
    have system : (systemColumns.map Text.fold).Nodup := by decide +kernel
    simp only [List.map_append]
    refine List.nodup_append.mpr ⟨system, distinct, ?_⟩
    rintro _ ha _ hb rfl
    obtain ⟨column, hc, same⟩ := List.mem_map.mp ha
    obtain ⟨name, hname, folded⟩ := List.mem_map.mp hb
    obtain ⟨f, hf, rfl⟩ := List.mem_map.mp hname
    have other := not_sameFold_of_isSystemColumn (own layout f hf) hc
    rw [Text.sameFold_iff.mpr (folded.trans same.symm)] at other
    cases other

/-- A field's column tells no number of the row. -/
theorem autoKeys_tableText (e : Entity) :
    (e.tableText.columns.filter fun c => c.constraints.contains .autoKey).map ColumnText.name =
      match e.layout with
      | .template => ["id"]
      | .native => [] := by
  have ofFields : (e.fields.map fun f => f.columnText e.layout).filter
      (fun c => c.constraints.contains .autoKey) = [] := by
    refine List.filter_eq_nil_iff.mpr fun c hc => ?_
    obtain ⟨f, -, rfl⟩ := List.mem_map.mp hc
    unfold Field.columnText
    cases f.default <;> simp
  unfold tableText
  rw [List.filter_append, ofFields, List.append_nil]
  cases e.layout with
  | template => decide
  | native => rfl

theorem isLaidOut (valid : validateFields fields e.layout = .ok ())
    (stored : e.fields = sortFields (storedFields id first e.layout audit fields)) :
    e.IsLaidOut := by
  have keyed : e.layout = .native → e.keys ≠ [] := by
    intro native
    rw [native] at valid
    obtain ⟨f, hf, isKey⟩ := exists_key_of_validateFields valid
    obtain ⟨i, less, rfl⟩ := List.getElem_of_mem hf
    refine List.ne_nil_of_mem (a := storedField id (first + i) e.layout audit i fields[i]) ?_
    refine List.mem_filter.mpr ⟨(perm_of_stored stored).mem_iff.mpr ?_, isKey⟩
    exact List.mem_map.mpr ⟨(fields[i], i), List.mk_mem_zipIdx_iff_getElem?.mpr
      (List.getElem?_eq_getElem less), rfl⟩
  have auto := e.autoKeys_tableText
  constructor
  case columns => exact e.columnNames_tableText
  case apart => exact distinct_columns valid stored
  case key =>
    have told : e.tableText.primaryKeys =
        ((e.tableText.columns.filter fun c => c.constraints.contains .autoKey).map
          ColumnText.name).map (fun c => [c]) ++
          if e.tableText.primaryKey.isEmpty then [] else [e.tableText.primaryKey] := by
      rw [TableText.primaryKeys, List.map_map]
      rfl
    rw [told, auto]
    unfold primaryKey tableText
    cases layout : e.layout with
    | template => rfl
    | native => simp [keyed layout]
  case keyed =>
    unfold primaryKey
    cases layout : e.layout with
    | template => exact List.cons_ne_nil _ _
    | native => simpa using keyed layout
  case fields =>
    intro f hf
    obtain ⟨hf, isKey⟩ := List.mem_filter.mp hf
    refine ⟨f.columnText e.layout, List.mem_append_right _ (List.mem_map_of_mem hf), rfl, ?_,
      fun template => ?_⟩
    · simp [Field.columnText, isKey]
    · simp [Field.columnText, isKey, template]

/-- What the statement declares is laid out as the statement is. -/
theorem IsLaidOut.spec (h : e.IsLaidOut) {s : TableSpec} (declared : e.tableText.plainSpec = .ok s) :
    s.IsLayoutOf e := by
  have key := TableText.primaryKeys_of_plainSpec declared h.key
  obtain ⟨-, rfl⟩ := TableText.plainSpec_ok declared
  refine ⟨?_, key, fun f hf => ?_⟩
  · rw [← h.columns, List.map_map]
    rfl
  · obtain ⟨c, hc, name, notNull, unique⟩ := h.fields f hf
    refine ⟨c.spec, List.mem_map_of_mem hc, name, ?_, fun template => ?_⟩
    · simp [ColumnText.spec, notNull]
    · refine ⟨{ columns := [{ name := c.name }] }, List.mem_append_left _ ?_, by rw [name]⟩
      exact List.mem_map_of_mem (List.mem_filter.mpr ⟨hc, by simpa using unique template⟩)

/-- Names that are apart are no fault of the statement. -/
theorem IsLaidOut.declares (h : e.IsLaidOut) : ∃ s, e.tableText.plainSpec = .ok s := by
  have new : repeatedColumn? [] (e.tableText.columns.map ColumnText.name) = none := by
    rw [h.columns]
    exact repeatedColumn?_of_distinct h.apart fun _ _ b hb => absurd hb List.not_mem_nil
  exact ⟨_, by rw [TableText.plainSpec, new]⟩

end Entity

/-! ### Drafts -/

/-- The types that are given for columns are types and nothing else. -/
def EntityDraft.HasPlainTypes (d : EntityDraft) : Prop :=
  ∀ f ∈ d.fields, ∀ s, f.columnType = some s → Text.isBlankText s = false →
    isPlainType s.toList = true

theorem isPlainType_typeFor {f : FieldDraft} (layout : Layout)
    (given : ∀ s, f.columnType = some s → Text.isBlankText s = false →
      isPlainType s.toList = true) : isPlainType (FieldDraft.typeFor f layout).toList = true := by
  unfold FieldDraft.typeFor
  split
  · rename_i s found
    obtain ⟨told, filled⟩ := Option.filter_eq_some_iff.mp found
    exact given s told (by simpa using filled)
  · exact (FieldType.columnType_ordinary _ _ _ _).plain

variable {db db' : Database} {d : EntityDraft} {actor : String} {ambient : Ambient} {e : Entity}

/-- Checks, statement and queries agree on the columns of a definition that is stored for a valid
draft. Its statement has these columns, with names that are apart and one primary key. A name means
a column in a query exactly if one of these names is it, whatever the case of its letters, and takes
no part in the query otherwise. As long as the types that are given for columns are types and nothing
else, this is also what the statement declares, if nothing cuts it short. -/
theorem columns_agree (valid : d.validate = .ok ())
    (stored : db.createEntity d actor ambient = .ok (e, db')) :
    e.IsLaidOut ∧
      (∀ name, (e.column? name).isSome = true ↔ Text.fold name ∈ e.columns.map Text.fold) ∧
      (∀ o s, Query.overTable e o = .ok s → Query.LooksUp e o s) ∧
      (d.HasPlainTypes → (∀ s, e.tableText.spec = .ok s → s.IsLayoutOf e) ∧
        (e.tableText.isWhole = true → ∃ s, e.tableText.spec = .ok s)) := by
  have c := Database.created_of_createEntity stored
  obtain ⟨first, audit, fields⟩ := c.fields
  have valid := (validate_ok valid).2
  rw [← c.layout] at valid fields
  have laid := Entity.isLaidOut valid fields
  refine ⟨laid, fun name => Entity.column?_isSome_iff, fun o s => Query.looksUp laid.apart,
    fun types => ?_⟩
  have plain : e.tableText.hasPlainTypes = true := by
    refine Entity.hasPlainTypes_of_fields ?_ fun x hx => ?_
    · intro none
      have length := (Entity.perm_of_stored fields).length_eq
      rw [none, storedFields, List.length_map, List.length_zipIdx, List.length_nil] at length
      exact some_of_validateFields valid (List.length_eq_zero_iff.mp length.symm)
    · obtain ⟨f, hf, declares⟩ := c.stores x hx
      rw [declares.columnType]
      exact isPlainType_typeFor _ (types f hf)
  refine ⟨fun s declared => laid.spec (TableText.plainSpec_of_spec plain declared), fun whole => ?_⟩
  obtain ⟨s, declared⟩ := laid.declares
  exact ⟨s, by rw [TableText.spec, plain, whole]; exact declared⟩

/-- Goods under a code, whose column has the type that is given. -/
def coded (type : String) : EntityDraft where
  appId := 1
  name := "Coded"
  table := "coded"
  kind := .static
  fields := [{ name := " code", type := .string, isKey := true, columnType := some type }]

theorem columns_agree_coded : (coded "VARCHAR(8)").validate = .ok () ∧
    ∃ e db', Database.createEntity .empty (coded "VARCHAR(8)") "a" ⟨⟨0, 0⟩, "r", "c"⟩ =
      .ok (e, db') ∧ e.IsLaidOut ∧ ∃ s, e.tableText.spec = .ok s ∧ s.IsLayoutOf e := by
  have valid : (coded "VARCHAR(8)").validate = .ok () := by decide +kernel
  have types : (coded "VARCHAR(8)").HasPlainTypes := by
    intro f hf s given _
    rw [List.mem_singleton.mp hf] at given
    rw [← Option.some.inj given]
    decide +kernel
  have whole : (Database.createEntity .empty (coded "VARCHAR(8)") "a"
      ⟨⟨0, 0⟩, "r", "c"⟩).toOption.any (fun p => p.1.tableText.isWhole) = true := by
    decide +kernel
  cases stored : Database.createEntity .empty (coded "VARCHAR(8)") "a" ⟨⟨0, 0⟩, "r", "c"⟩ with
  | error f =>
    rw [stored] at whole
    cases whole
  | ok p =>
    obtain ⟨e, db'⟩ := p
    simp only [stored, Except.toOption, Option.any_some] at whole
    obtain ⟨laid, -, -, declares⟩ := columns_agree valid stored
    obtain ⟨layout, declared⟩ := declares types
    obtain ⟨s, declared⟩ := declared whole
    exact ⟨valid, e, db', rfl, laid, s, declared, layout s declared⟩

/-- What is given as a type may hold a column of its own. -/
theorem type_adds_column : (coded "TEXT, extra TEXT NOT NULL").validate = .ok () ∧
    (Database.createEntity .empty (coded "TEXT, extra TEXT NOT NULL") "a"
      ⟨⟨0, 0⟩, "r", "c"⟩).toOption.any (fun p => p.1.columns == ["code"] &&
        p.1.tableText.spec.toOption.any fun s =>
          s.columns.map ColumnSpec.name == ["code", "extra"]) = true :=
  ⟨by decide +kernel, by decide +kernel⟩

end EntityEngine
