import EntityEngine.Proofs.Sql.ColumnType
import EntityEngine.Proofs.Store.Schema

/-! The table that is made of a definition whose column types follow from the types of its fields.
It has the columns of the definition and its primary key, so that the statements on its rows name no
other column. -/

namespace EntityEngine

open Sql

/-- The columns of the primary key, as the definition has it. -/
def Entity.primaryKey (e : Entity) : List String :=
  match e.layout with
  | .template => ["id"]
  | .native => e.keys.map Field.name

/-- There are fields, and their column types follow from their types. -/
structure Entity.HasDerivedTypes (e : Entity) : Prop where
  some : e.fields ≠ []
  derived : ∀ f ∈ e.fields, f.columnType = f.type.columnType f.length f.scale e.layout

namespace Store.Table

/-- The columns and the primary key are those of a definition, in order and but for the case of
letters. -/
structure Fits (t : Table) (e : Entity) : Prop where
  columns : t.columns.map (fun c => Text.fold c.name) = e.columns.map Text.fold
  primary : t.primaryColumns.map Text.fold = e.primaryKey.map Text.fold

/-- The table is the one that the statement of a definition makes, with any rows and further indexes.
The types of its columns follow from those of the fields. -/
structure IsMadeOf (t : Table) (e : Entity) : Prop where
  derived : e.HasDerivedTypes
  form : ∃ spec, e.tableText.spec = .ok spec ∧ t.form = (Database.tableOf e.tableText spec).form

/-- The table has what a statement looks at. -/
def Finds (t : Table) : Operand → Prop
  | .column name => t.hasColumn name = true
  | .plain name => (t.resolve? name).isSome = true
  | .member _ => False

/-- The table has what a condition looks at. -/
def FindsIn (t : Table) : Condition → Prop
  | .compare left _ _ | .compareNumber left _ _ | .compareNumbers left _ _ | .like left _ =>
    t.Finds left
  | .kept => t.Finds (.plain "deleted")

/-- Every column that is named for the rows of an entity is one of the table. -/
structure Serves (t : Table) (e : Entity) : Prop where
  shown : ∀ name ∈ e.columns, t.hasColumn name = true
  inserted : ∀ data ambient, ∀ p ∈ newValues e data ambient, t.hasColumn p.1 = true
  changed : ∀ data ambient, ∀ p ∈ Database.rowChanges e data ambient, t.hasColumn p.1 = true
  keyed : ∀ key conditions, keyConditions? e key = some conditions → ∀ c ∈ conditions, t.FindsIn c
  queried : ∀ o plan, Query.overTable e o = .ok plan →
    (∀ x ∈ plan.columns, t.Finds x) ∧ (∀ c ∈ plan.conditions, t.FindsIn c) ∧
      ∀ x ∈ plan.order, t.Finds x.operand

end Store.Table

/-! ### The statement that makes the table -/

/-- What a statement declares follows from its parts, if its types are types and nothing else. -/
theorem Sql.TableText.plainSpec_of_spec {t : TableText} (plain : t.hasPlainTypes = true)
    {spec : TableSpec} (declared : t.spec = .ok spec) : t.plainSpec = .ok spec := by
  unfold TableText.spec at declared
  rw [plain] at declared
  simp only [Bool.not_true, Bool.false_eq_true, if_false] at declared
  split at declared
  · exact declared
  · split at declared <;> cases declared

/-- What it declares are its parts, and their names are apart. -/
theorem Sql.TableText.plainSpec_ok {t : TableText} {spec : TableSpec}
    (declared : t.plainSpec = .ok spec) :
    repeatedColumn? [] (t.columns.map ColumnText.name) = none ∧ spec =
      { name := t.table
        columns := t.columns.map ColumnText.spec
        numberColumn := t.numberColumn?
        isAutoincrement := t.columns.any fun c => c.constraints.contains .autoKey
        uniques := t.uniques } := by
  unfold TableText.plainSpec at declared
  split at declared
  · cases declared
  · exact ⟨by assumption, (Except.ok.inj declared).symm⟩

namespace Entity

variable {e : Entity}

theorem hasPlainTypes_of_fields (some : e.fields ≠ [])
    (fields : ∀ f ∈ e.fields, isPlainType f.columnType.toList = true) :
    e.tableText.hasPlainTypes = true := by
  have system : systemColumnTexts.all ColumnText.hasPlainType = true := by decide +kernel
  obtain ⟨f, rest, cons⟩ := List.exists_cons_of_ne_nil some
  unfold TableText.hasPlainTypes tableText
  rw [Bool.and_eq_true, List.all_append, List.all_map, Bool.and_eq_true]
  refine ⟨?_, ?_, List.all_eq_true.mpr fields⟩
  · simp [cons]
  · cases e.layout with
    | template => exact system
    | native => rfl

theorem hasPlainTypes_tableText (h : e.HasDerivedTypes) : e.tableText.hasPlainTypes = true := by
  refine hasPlainTypes_of_fields h.some fun f hf => ?_
  rw [h.derived f hf]
  exact (FieldType.columnType_ordinary _ _ _ _).plain

theorem further_tableText (h : e.HasDerivedTypes) : e.tableText.further = [] := by
  rw [TableText.further, if_pos (hasPlainTypes_tableText h)]

/-- What the statement declares follows from its parts. -/
theorem spec_tableText (h : e.HasDerivedTypes) {spec : TableSpec}
    (declared : e.tableText.spec = .ok spec) : e.tableText.plainSpec = .ok spec :=
  TableText.plainSpec_of_spec (hasPlainTypes_tableText h) declared

theorem columnNames_tableText (e : Entity) :
    e.tableText.columns.map ColumnText.name = e.columns := by
  unfold tableText columns
  rw [List.map_append, List.map_map]
  cases e.layout <;> rfl

/-- No key of a native table is the number of the row. -/
theorem numberColumn?_tableText (h : e.HasDerivedTypes) : e.tableText.numberColumn? =
    match e.layout with
    | .template => some "id"
    | .native => none := by
  cases layout : e.layout with
  | template =>
    simp only [TableText.numberColumn?, tableText, layout]
    rfl
  | native =>
    have own : ∀ c ∈ e.tableText.columns, c.constraints.contains .autoKey = false ∧
        TableText.isNumberType c.spec.type = false := by
      intro c hc
      simp only [tableText, layout, List.nil_append] at hc
      obtain ⟨f, hf, rfl⟩ := List.mem_map.mp hc
      constructor
      · unfold Field.columnText
        cases f.default <;> simp
      · show TableText.isNumberType (declaredType f.columnType.toList) = false
        rw [h.derived f hf]
        exact (FieldType.columnType_ordinary _ _ _ _).notNumber
    have noAuto : (e.tableText.columns.find? fun c => c.constraints.contains .autoKey) = none := by
      rw [List.find?_eq_none]
      intro c hc
      rw [(own c hc).1]
      exact Bool.false_ne_true
    unfold TableText.numberColumn?
    rw [noAuto]
    simp only
    split
    · rw [if_neg]
      rw [Bool.not_eq_true, List.any_eq_false]
      intro c hc
      rw [(own c hc).2, Bool.and_false]
      exact Bool.false_ne_true
    · rfl

/-- No other unique constraint is the primary key. -/
theorem primary_tableText (none : e.tableText.numberColumn? = none) :
    e.tableText.uniques.find? UniqueSpec.isPrimary =
      if e.tableText.primaryKey.isEmpty then Option.none
      else some { columns := e.tableText.primaryKey.map fun name => { name }, isPrimary := true } := by
  unfold TableText.uniques
  rw [List.find?_append, List.find?_eq_none.mpr, none]
  · cases e.tableText.primaryKey.isEmpty <;> rfl
  · intro u hu
    obtain ⟨c, -, rfl⟩ := List.mem_map.mp hu
    exact Bool.false_ne_true

end Entity

/-! ### The table that is made -/

namespace Store

variable {t : Table} {e : Entity}

theorem Table.fits_form : t.form.Fits e ↔ t.Fits e := by
  have primary : t.form.primaryColumns = t.primaryColumns := by
    have same : (t.indexes.filter Index.isPrimary).find? Index.isPrimary =
        t.indexes.find? Index.isPrimary := by
      rw [List.find?_filter]
      simp
    unfold Table.primaryColumns Table.form
    rw [same]
  constructor
  · intro h
    exact ⟨h.columns, by rw [← primary]; exact h.primary⟩
  · intro h
    exact ⟨h.columns, by rw [primary]; exact h.primary⟩

/-- The table that an entity's statement makes has its columns and its primary key. -/
theorem fits_tableOf (h : e.HasDerivedTypes) {spec : TableSpec}
    (declared : e.tableText.spec = .ok spec) :
    (Database.tableOf e.tableText spec).Fits e := by
  obtain ⟨-, rfl⟩ := TableText.plainSpec_ok (Entity.spec_tableText h declared)
  constructor
  · rw [← Entity.columnNames_tableText]
    simp only [Database.tableOf, Table.ofSpec, List.map_map]
    rfl
  · refine congrArg (List.map Text.fold) ?_
    have number := Entity.numberColumn?_tableText h
    unfold Table.primaryColumns Entity.primaryKey
    simp only [Database.tableOf, Table.ofSpec]
    cases layout : e.layout with
    | template =>
      rw [layout] at number
      rw [number]
    | native =>
      rw [layout] at number
      have found : (e.tableText.uniques.map Table.constraintIndex).find? Index.isPrimary =
          (e.tableText.uniques.find? UniqueSpec.isPrimary).map Table.constraintIndex :=
        List.find?_map
      have key : e.tableText.primaryKey = e.keys.map Field.name := by
        simp only [Entity.tableText, layout]
      simp only [number]
      rw [found, Entity.primary_tableText number, key]
      cases e.keys with
      | nil => rfl
      | cons f rest => simp [Table.constraintIndex, Function.comp_def]

theorem Table.isMadeOf_form : t.form.IsMadeOf e ↔ t.IsMadeOf e := by
  have same : t.form.form = t.form := by simp [Table.form]
  constructor
  · intro h
    exact ⟨h.derived, same ▸ h.form⟩
  · intro h
    exact ⟨h.derived, same.symm ▸ h.form⟩

namespace Table.IsMadeOf

theorem fits (h : t.IsMadeOf e) : t.Fits e := by
  obtain ⟨spec, declared, same⟩ := h.form
  rw [← fits_form, same, fits_form]
  exact fits_tableOf h.derived declared

theorem name (h : t.IsMadeOf e) : t.name = e.table := by
  obtain ⟨spec, -, same⟩ := h.form
  exact congrArg Table.name same

end Table.IsMadeOf

/-! ### What statements name -/

theorem Table.hasColumn_iff {name : String} : t.hasColumn name = true ↔
    Text.fold name ∈ t.columns.map fun c => Text.fold c.name := by
  rw [hasColumn, place?, List.findIdx?_isSome, List.any_eq_true, List.mem_map]
  constructor
  · rintro ⟨c, hc, same⟩
    exact ⟨c, hc, Text.sameFold_iff.mp same⟩
  · rintro ⟨c, hc, same⟩
    exact ⟨c, hc, Text.sameFold_iff.mpr same⟩

namespace Table.Fits

theorem hasColumn (h : t.Fits e) {name column : String} (mem : column ∈ e.columns)
    (same : Text.fold name = Text.fold column) : t.hasColumn name = true := by
  rw [hasColumn_iff, h.columns, same]
  exact List.mem_map_of_mem mem

theorem hasColumn_system (h : t.Fits e) (layout : e.layout = .template) {name : String}
    (system : name ∈ systemColumns) : t.hasColumn name = true := by
  refine h.hasColumn ?_ rfl
  rw [Entity.columns, layout]
  exact List.mem_append_left _ system

theorem hasColumn_field (h : t.Fits e) {f : Field} (hf : f ∈ e.fields) :
    t.hasColumn f.name = true :=
  h.hasColumn (List.mem_append_right _ (List.mem_map_of_mem hf)) rfl

theorem hasColumn_given (h : t.Fits e) (data : ValueMap) :
    ∀ p ∈ givenValues e data, t.hasColumn p.1 = true := by
  intro p hp
  obtain ⟨⟨name, v⟩, given, rfl⟩ := List.mem_map.mp hp
  have declared := (List.mem_filter.mp given).2
  obtain ⟨f, found⟩ := Option.isSome_iff_exists.mp declared
  have named : f.name = name := by simpa using List.find?_some found
  rw [← named]
  exact h.hasColumn_field (List.mem_of_find?_eq_some found)

/-- A column that a name means is in the table. -/
theorem hasColumn_of_column? (h : t.Fits e) {name column : String}
    (found : e.column? name = some column) : t.hasColumn column = true := by
  unfold Entity.column? at found
  split at found
  · rename_i system
    obtain ⟨layout, system⟩ := system
    rw [← Option.some.inj found]
    obtain ⟨c, hc, same⟩ := List.any_eq_true.mp system
    rw [Text.sameFold_iff] at same
    have mem : c ∈ e.columns := by
      rw [Entity.columns, layout]
      exact List.mem_append_left _ hc
    have folded : ∀ c ∈ systemColumns, Text.fold (Text.fold c) = Text.fold c := by decide +kernel
    refine h.hasColumn mem ?_
    rw [same]
    exact folded c hc
  · obtain ⟨f, first, rfl⟩ := Option.map_eq_some_iff.mp found
    exact h.hasColumn_field (List.mem_of_find?_eq_some first)

/-- Conditions on some names, one for each part of a key. -/
theorem findsIn_zipWith {names : List String} (all : ∀ name ∈ names, t.hasColumn name = true)
    (parts : List String) : ∀ c ∈ List.zipWith
      (fun column part => Condition.compare (.column column) .eq (.text part)) names parts,
      t.FindsIn c := by
  induction names generalizing parts with
  | nil =>
    intro c hc
    cases hc
  | cons name names ih =>
    cases parts with
    | nil =>
      intro c hc
      cases hc
    | cons part parts =>
      intro c hc
      rw [List.zipWith_cons_cons] at hc
      rcases List.mem_cons.mp hc with rfl | hc
      · exact all name List.mem_cons_self
      · exact ih (fun n hn => all n (List.mem_cons_of_mem _ hn)) parts c hc

theorem finds_keys (h : t.Fits e) {key : String} {conditions : List Condition}
    (found : keyConditions? e key = some conditions) : ∀ c ∈ conditions, t.FindsIn c := by
  have keyed : ∀ f ∈ e.keys, t.hasColumn f.name = true := fun f hf =>
    h.hasColumn_field (List.mem_filter.mp hf).1
  simp only [keyConditions?] at found
  cases layout : e.layout with
  | template =>
    rw [layout] at found
    rw [← Option.some.inj found]
    intro c hc
    rw [List.mem_singleton.mp hc]
    exact h.hasColumn_system layout (by decide)
  | native =>
    rw [layout] at found
    simp only at found
    split at found
    · cases found
    · rename_i f keys
      rw [← Option.some.inj found]
      intro c hc
      rw [List.mem_singleton.mp hc]
      exact keyed f (by rw [keys]; exact List.mem_singleton_self f)
    · split at found
      · rw [← Option.some.inj found]
        refine findsIn_zipWith (fun name mem => ?_) _
        obtain ⟨f, hf, rfl⟩ := List.mem_map.mp mem
        exact keyed f hf
      · cases found

theorem finds_order (h : t.Fits e) : ∀ x ∈ Query.tableOrder e.layout, t.Finds x.operand := by
  cases layout : e.layout with
  | template =>
    intro x hx
    rcases List.mem_cons.mp hx with rfl | hx
    · exact h.hasColumn_system layout (by decide)
    · rw [List.mem_singleton.mp hx]
      exact h.hasColumn_system layout (by decide)
  | native =>
    intro x hx
    rw [List.mem_singleton.mp hx]
    show (t.resolve? "rowid").isSome = true
    unfold resolve?
    split
    · rfl
    · rfl

theorem finds_clauses (h : t.Fits e) {clauses : List OrderClause} {terms : List OrderTerm}
    (resolved : Query.columnOrder? e clauses = some terms) : ∀ x ∈ terms, t.Finds x.operand := by
  induction clauses generalizing terms with
  | nil =>
    rw [← Option.some.inj resolved]
    intro x hx
    cases hx
  | cons c clauses ih =>
    simp only [Query.columnOrder?, List.mapM_cons, Option.bind_eq_bind, Option.bind_eq_some_iff,
      Option.map_eq_some_iff] at resolved
    obtain ⟨term, ⟨column, found, rfl⟩, rest, others, eq⟩ := resolved
    rw [← Option.some.inj eq]
    intro x hx
    rcases List.mem_cons.mp hx with rfl | hx
    · exact h.hasColumn_of_column? found
    · exact ih others x hx

theorem finds_plan (h : t.Fits e) {o : QueryOptions} {plan : Selection}
    (planned : Query.overTable e o = .ok plan) :
    (∀ x ∈ plan.columns, t.Finds x) ∧ (∀ c ∈ plan.conditions, t.FindsIn c) ∧
      ∀ x ∈ plan.order, t.Finds x.operand := by
  obtain ⟨offset, -, eq⟩ := bind_ok planned
  rw [← Except.ok.inj eq]
  refine ⟨?_, ?_, ?_⟩
  · intro x hx
    obtain ⟨name, mem, rfl⟩ := List.mem_map.mp hx
    exact h.hasColumn mem rfl
  · intro c hc
    obtain ⟨f, -, hf⟩ := Option.bind_eq_some_iff.mp (Option.mem_toList.mp hc)
    obtain ⟨column, found, rfl⟩ := Option.map_eq_some_iff.mp hf
    have has := h.hasColumn_of_column? found
    cases f with
    | test _ _ _ => exact has
    | compare _ _ _ => exact has
  · simp only
    split
    · exact h.finds_order
    · exact h.finds_order
    · rename_i resolved
      exact h.finds_clauses resolved

/-- A table that has the columns of a definition serves the statements on its rows. -/
theorem serves (h : t.Fits e) : t.Serves e where
  shown := fun _ mem => h.hasColumn mem rfl
  inserted := by
    intro data ambient p hp
    rcases List.mem_append.mp hp with hp | hp
    · cases layout : e.layout with
      | template =>
        rw [layout] at hp
        refine h.hasColumn_system layout ?_
        have names : ∀ p ∈ systemValues ambient, p.1 ∈ systemColumns := by
          simp [systemValues, systemColumns]
        exact names p hp
      | native =>
        rw [layout] at hp
        cases hp
    · exact h.hasColumn_given data p hp
  changed := by
    intro data ambient p hp
    rcases List.mem_append.mp hp with hp | hp
    · cases layout : e.layout with
      | template =>
        rw [layout] at hp
        refine h.hasColumn_system layout ?_
        rcases List.mem_cons.mp hp with rfl | hp
        · decide
        · rw [List.mem_singleton.mp hp]
          show "updated_at" ∈ systemColumns
          decide
      | native =>
        rw [layout] at hp
        cases hp
    · obtain ⟨⟨name, v⟩, given, rfl⟩ := List.mem_map.mp hp
      exact h.hasColumn_given data (name, v) given
  keyed := fun _ _ found => h.finds_keys found
  queried := fun _ _ planned => h.finds_plan planned

end Table.Fits

end Store

end EntityEngine
