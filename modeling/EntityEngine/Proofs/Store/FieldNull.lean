import EntityEngine.Proofs.Record.Preparation
import EntityEngine.Proofs.Store.NullRefusal
import EntityEngine.Proofs.Store.RowValues

/-! Null under the fields of a definition. Of the columns of a template's table that may not be
null, a statement on its rows can break only those of fields, and it breaks the ones that it gives
null. A field that is given nothing takes its default, which is never null. -/

namespace EntityEngine

open Sql Store

/-- A time that dates and times can be shown of: from the year −4713 to the end of the year 9999. -/
def Time.Instant.IsShown (t : Time.Instant) : Prop :=
  (Moment.ofInstant t).milliseconds.any Moment.isInRange = true

instance (t : Time.Instant) : Decidable t.IsShown := inferInstanceAs (Decidable (_ = true))

/-! ### Values that are not null -/

namespace Sql

/-- One more than a value is a value that is not null. -/
def Value.HasNext (v : Value) : Prop := (Arithmetic.add.apply v (.integer 1)).isNull = false

theorem Value.hasNext_integer {n : Int} (fits : Number.inInt64 (n + 1) = true) :
    (Value.integer n).HasNext := by
  have sum : Arithmetic.add.apply (.integer n) (.integer 1) = .integer (n + 1) := by
    show Arithmetic.add.fitted n 1 (n + 1) = _
    rw [Arithmetic.fitted, fits, if_pos rfl]
  rw [HasNext, sum]
  rfl

theorem Moment.isSome_parts? {t : Time.Instant} (shown : t.IsShown) :
    (Moment.ofInstant t).parts?.isSome = true := by
  obtain ⟨n, some, inside⟩ := (Option.any_eq_true _ _).mp shown
  have none : (ofInstant t).date = none ∧ (ofInstant t).clock = none := ⟨rfl, rfl⟩
  simp [parts?, withMilliseconds, withDateAndClock, withDate, withClock, some, none, inside]

/-- The present shows as a text. -/
theorem ClockFunction.apply_present {f : ClockFunction}
    (clock : f = .date ∨ f = .time ∨ f = .dateTime) (s : Setting) :
    ∃ v, f.apply { s with purpose := .default } [] = .ok v ∧
      (s.now.IsShown → v.isNull = false) := by
  have value : f.apply { s with purpose := .default } [] =
      .ok (((Option.some (Moment.ofInstant s.now)).bind f.shown).getD .null) := by
    rcases clock with rfl | rfl | rfl <;> rfl
  refine ⟨_, value, fun shown => ?_⟩
  obtain ⟨parts, found⟩ := Option.isSome_iff_exists.mp (Moment.isSome_parts? shown)
  rw [Option.bind_some, ClockFunction.shown, found]
  rcases clock with rfl | rfl | rfl <;> rfl

/-- A default has a value, and it is not null while times can be shown. -/
theorem DefaultValue.exists_value (d : DefaultValue) (s : Setting) :
    ∃ v, d.expression.value s = .ok v ∧ (s.now.IsShown → v.isNull = false) := by
  cases d with
  | number numeral =>
    refine ⟨_, rfl, fun _ => ?_⟩
    unfold numericStart
    split
    · exact Value.isNull_numeralValue _
    · rfl
  | flag b => exact ⟨_, rfl, fun _ => by cases b <;> rfl⟩
  | text _ => exact ⟨_, rfl, fun _ => rfl⟩
  | clock word =>
    unfold expression
    simp only
    split
    · exact ClockFunction.apply_present (Or.inl rfl) s
    · split
      · exact ClockFunction.apply_present (Or.inr (Or.inl rfl)) s
      · exact ClockFunction.apply_present (Or.inr (Or.inr rfl)) s

end Sql

/-! ### Columns and fields -/

theorem Field.notNull_columnText (f : Field) (layout : Layout) :
    (Table.columnOf (f.columnText layout).spec).notNull.isSome = (f.isNotNull || f.isKey) := by
  have listed : (f.columnText layout).constraints.contains .notNull = (f.isNotNull || f.isKey) := by
    unfold Field.columnText
    simp only
    by_cases needed : (f.isNotNull || f.isKey) = true
    · rw [if_pos needed, needed]
      rfl
    · rw [if_neg needed, Bool.eq_false_iff.mpr needed]
      cases f.default <;> split <;> rfl
  rw [Table.columnOf, ColumnText.spec, listed]
  cases f.isNotNull || f.isKey <;> rfl

theorem Field.default_columnText (f : Field) (layout : Layout) :
    (Table.columnOf (f.columnText layout).spec).default =
      f.default.map fun s => (DefaultValue.ofText f.type s).expression := by
  have listed : (f.columnText layout).default? = f.default.map (DefaultValue.ofText f.type) := by
    unfold Field.columnText ColumnText.default?
    simp only
    cases f.default <;> split <;> split <;> rfl
  rw [Table.columnOf, ColumnText.spec, listed, Option.map_map]
  rfl

/-- Where key fields may not be null, those that may not be are the ones that say so. -/
theorem Entity.needed_eq {e : Entity} {f : Field}
    (keys : ∀ f ∈ e.fields, f.isKey = true → f.isNotNull = true) (hf : f ∈ e.fields) :
    (f.isNotNull || f.isKey) = f.isNotNull := by
  cases key : f.isKey with
  | false => exact Bool.or_false _
  | true => rw [keys f hf key, Bool.true_or]

namespace Store.Table

variable {t : Table} {m e : Entity} {f : Field} {context : Setting} {ambient : Ambient}

/-- What breaks null is found among the columns, where that does not depend on their places. -/
theorem nullColumn?_eq {x : Extent} {row : Row} {p : Column → Bool}
    (same : ∀ i c, t.columns[i]? = some c → t.breaksNull x row (c, i) = p c) :
    t.nullColumn? x row = t.columns.find? p :=
  find?_zipIdx fun i c column => by
    rw [Nat.zero_add]
    exact same i c column

/-- Where the columns beside the fields pass, the first column that does not is that of the first
such field. -/
theorem IsMadeOf.find?_columns (h : t.IsMadeOf e) (template : e.layout = .template)
    {p : Column → Bool} (system : ∀ c ∈ systemColumnTexts, p (columnOf c.spec) = false) :
    (t.columns.find? p).map Column.name =
      (e.fields.find? fun f => p (columnOf (f.columnText e.layout).spec)).map Field.name := by
  have none : systemColumnTexts.find? (p ∘ fun c => columnOf c.spec) = none :=
    List.find?_eq_none.mpr fun c hc => by simp [system c hc]
  rw [h.columns, List.find?_map, Option.map_map, Entity.tableText, template, List.find?_append,
    none, Option.none_or, List.find?_map, Option.map_map]
  rfl

/-! ### New rows -/

/-- The value of a column in a new row is null. -/
def newNull (context : Setting) (given : List (String × Value)) (c : Column) : Bool :=
  (newValue context given c).toOption.any Value.isNull

/-- Every column has a value in a new row. -/
theorem exists_newValues (plain : ∀ c ∈ t.columns, IsPlainColumn c) (context : Setting)
    (given : List (String × Value)) : ∃ values, t.columns.mapM (fun c =>
      if t.isNumberColumn c.name then pure .null else newValue context given c) = .ok values := by
  refine exists_mapM fun c hc => ?_
  cases t.isNumberColumn c.name with
  | true => exact ⟨.null, rfl⟩
  | false =>
    rw [if_neg Bool.false_ne_true, newValue]
    cases given? given c with
    | some v => exact ⟨_, rfl⟩
    | none =>
      cases default : c.default with
      | none => exact ⟨_, rfl⟩
      | some x =>
        obtain ⟨d, rfl⟩ := (plain c hc).default x default
        obtain ⟨v, value, -⟩ := d.exists_value { context with purpose := .default }
        exact ⟨_, by simp only [value]; rfl⟩

theorem breaksNull_new {given : List (String × Value)} {values : List Value} {number : Int}
    (made : t.columns.mapM (fun c =>
      if t.isNumberColumn c.name then pure .null else newValue context given c) = .ok values)
    {i : Nat} {c : Column} (column : t.columns[i]? = some c) :
    t.breaksNull {} ⟨number, t.numbered number values⟩ (c, i) =
      (c.notNull.isSome && !t.isNumberColumn c.name && newNull context given c) := by
  obtain ⟨w, there, value⟩ := mapM_result made column
  have pair : (t.columns.zip values)[i]? = some (c, w) :=
    List.getElem?_zip_eq_some.mpr ⟨column, there⟩
  have shown : valueAt ⟨number, t.numbered number values⟩ i =
      if t.isNumberColumn c.name then .integer number else w := by
    rw [valueAt, numbered, List.getElem?_map, pair]
    rfl
  rw [breaksNull, shown]
  cases own : t.isNumberColumn c.name with
  | true => simp
  | false =>
    rw [own, if_neg Bool.false_ne_true] at value
    simp [newNull, value, touches, Except.toOption]

namespace IsMadeOf

/-- A declared name is that of a field, if it is up to the case of letters. -/
theorem eq_name_of_declares (h : t.IsMadeOf e) (hf : f ∈ e.fields) {name : String}
    (declared : e.declares name = true) (same : Text.sameFold name f.name = true) :
    name = f.name := by
  obtain ⟨g, found⟩ := Option.isSome_iff_exists.mp declared
  have named : g.name = name := by simpa using List.find?_some found
  rw [← named] at same ⊢
  rw [h.eq_of_fold (List.mem_of_find?_eq_some found) hf same]

theorem given?_newValues_none (h : t.IsMadeOf e) (template : e.layout = .template)
    (own : e.HasOwnNames) (hf : f ∈ e.fields) {data : ValueMap} (absent : data.get? f.name = none) :
    given? (newValues e data ambient) (columnOf (f.columnText e.layout).spec) = none := by
  refine Option.map_eq_none_iff.mpr (List.find?_eq_none.mpr fun p hp same => ?_)
  replace same : Text.sameFold p.1 f.name = true := same
  rw [newValues, template] at hp
  rcases List.mem_append.mp hp with system | given
  · have mem : p.1 ∈ systemColumns := by
      simp only [systemValues, List.mem_cons, List.not_mem_nil, or_false] at system
      rcases system with rfl | rfl | rfl | rfl | rfl <;> simp [systemColumns]
    rw [Text.sameFold_comm, not_sameFold_of_isSystemColumn (own template f hf) mem] at same
    cases same
  · obtain ⟨q, hq, rfl⟩ := List.mem_map.mp given
    obtain ⟨there, declared⟩ := List.mem_filter.mp hq
    have name := h.eq_name_of_declares hf declared same
    have other := List.lookup_eq_none_iff.mp absent q there
    simp [name] at other

/-- The column of a field is null in a new row if null is given for it, or nothing while there is no
default. -/
theorem newNull_field (h : t.IsMadeOf e) (template : e.layout = .template) (own : e.HasOwnNames)
    (hf : f ∈ e.fields) (shown : context.now.IsShown) (data : ValueMap) (ambient : Ambient) :
    newNull context (newValues e data ambient) (columnOf (f.columnText e.layout).spec) =
      match data.get? f.name with
      | some v => v.isNull
      | none => f.default.isNone := by
  unfold newNull newValue
  cases there : data.get? f.name with
  | some v =>
    simp only [h.given?_newValues template own hf there, Except.toOption, Option.any_some,
      Value.isNull_store, Value.isNull_ofJson]
  | none =>
    simp only [h.given?_newValues_none template own hf there, f.default_columnText]
    cases f.default with
    | none => rfl
    | some s =>
      obtain ⟨v, value, some⟩ := (DefaultValue.ofText f.type s).exists_value
        { context with purpose := .default }
      simp only [Option.map_some, value, Except.map, Except.toOption, Option.any_some,
        Value.isNull_store, some shown]
      rfl

end IsMadeOf

/-- The number of a template's row stands in the first of the columns beside the fields. -/
theorem IsBuiltFrom.plain_field (built : t.IsBuiltFrom m) (layout : m.layout = e.layout)
    (template : e.layout = .template) (own : e.HasOwnNames) (hf : f ∈ e.fields) :
    t.isNumberColumn f.name = false :=
  (built.isNumberColumn_eq (layout.trans template) f.name).trans
    (not_sameFold_of_isSystemColumn (own template f hf) (by decide))

/-- The columns beside the fields have values in a new row, as far as they do not number it. -/
theorem newNull_system (template : e.layout = .template) (data : ValueMap) (context : Setting)
    (ambient : Ambient) : ∀ c ∈ systemColumnTexts, Text.sameFold c.name "id" = true ∨
      newNull context (newValues e data ambient) (columnOf c.spec) = false := by
  have given : ∀ c ∈ systemColumnTexts.tail, ∃ v, given? (newValues e data ambient)
      (columnOf c.spec) = some v ∧ v.isNull = false := by
    rw [newValues, template]
    intro c hc
    simp only [systemColumnTexts, List.tail_cons, List.mem_cons, List.not_mem_nil, or_false] at hc
    rcases hc with rfl | rfl | rfl | rfl | rfl <;> exact ⟨_, rfl, rfl⟩
  intro c hc
  rcases List.mem_cons.mp hc with rfl | hc
  · exact Or.inl (Text.sameFold_refl _)
  · obtain ⟨v, own, some⟩ := given c hc
    refine Or.inr ?_
    simp only [newNull, newValue, own, Except.toOption, Option.any_some, Value.isNull_store, some]

/-- Where all required fields are given, a new row breaks null in the first field that is given it
and may not be null. -/
theorem IsMadeOf.nullColumn?_new (h : t.IsMadeOf e) (built : t.IsBuiltFrom m)
    (layout : m.layout = e.layout) (template : e.layout = .template) (own : e.HasOwnNames)
    (keys : ∀ f ∈ e.fields, f.isKey = true → f.isNotNull = true) (shown : context.now.IsShown)
    {data : ValueMap} (all : missingField? e data = none) {values : List Value} {number : Int}
    (made : t.columns.mapM (fun c => if t.isNumberColumn c.name then pure .null
      else newValue context (newValues e data ambient) c) = .ok values) :
    (t.nullColumn? {} ⟨number, t.numbered number values⟩).map Column.name =
      (e.nulled? data).map Field.name := by
  rw [nullColumn?_eq fun i c column => breaksNull_new made column, h.find?_columns template]
  · refine congrArg _ (List.find?_congr fun f hf => ?_)
    have plain : t.isNumberColumn (columnOf (f.columnText e.layout).spec).name = false :=
      built.plain_field layout template own hf
    rw [f.notNull_columnText, plain, h.newNull_field template own hf shown,
      Entity.needed_eq keys hf]
    cases needed : f.isNotNull with
    | false => rfl
    | true =>
      cases there : data.get? f.name with
      | some v => simp
      | none =>
        -- A required field is given, so this one has a default.
        have optional : f.default.isNone = false := by
          rw [← Bool.not_eq_true]
          intro none
          have required : f ∈ e.fields.filter Field.isRequired :=
            List.mem_filter.mpr ⟨hf, by rw [Field.isRequired, needed, none]; rfl⟩
          exact List.find?_eq_none.mp all f required (by simp [isGiven, there])
        simp [optional]
  · intro c hc
    rcases newNull_system template data context ambient c hc with number | some
    · have own : t.isNumberColumn (columnOf c.spec).name = true :=
        (built.isNumberColumn_eq (layout.trans template) c.name).trans number
      simp [own]
    · simp [some]

/-! ### Changed rows -/

/-- The last change of a column sets it to null. -/
def setsNull (changes : List (String × Change)) (c : Column) : Bool :=
  match changes.reverse.find? fun p => Text.sameFold p.1 c.name with
  | some (_, .set v) => v.isNull
  | _ => false

theorem setsNull_of_values {changes : List (String × Change)} {c : Column}
    (some : ∀ p ∈ changes, ∀ v, p.2 = .set v → v.isNull = false) : setsNull changes c = false := by
  unfold setsNull
  split
  · rename_i name v found
    exact some _ (List.mem_reverse.mp (List.mem_of_find?_eq_some found)) v rfl
  · rfl

/-- Every column that a change counts on holds a value that has a next one. -/
def Counts (t : Table) (changes : List (String × Change)) (row : Row) : Prop :=
  ∀ i c name, t.columns[i]? = some c →
    changes.reverse.find? (fun p => Text.sameFold p.1 c.name) = some (name, .increment) →
      (valueAt row i).HasNext

/-- A changed row, of which all columns were filled, breaks null in those that are set to it. -/
theorem breaksNull_changed (simple : t.IsSimple) {changes : List (String × Change)} {row next : Row}
    (changed : t.changedRow changes row = .ok next) (filled : t.FillsIn {} row)
    (counts : t.Counts changes row) {i : Nat} {c : Column} (column : t.columns[i]? = some c) :
    t.breaksNull (t.extentOf changes) next (c, i) =
      (c.notNull.isSome && !t.isNumberColumn c.name && setsNull changes c) := by
  rw [breaksNull]
  cases needed : c.notNull.isSome with
  | false => simp
  | true =>
    cases plain : t.isNumberColumn c.name with
    | true => simp
    | false =>
      have before := filled i c column needed plain rfl
      rw [valueAt_changed changed column plain before, changedValue, setsNull]
      have touched : ∀ p, changes.reverse.find? (fun p => Text.sameFold p.1 c.name) = some p →
          touches (t.extentOf changes) i = true := by
        intro p found
        have same : Text.sameFold p.1 c.name = true := by simpa using List.find?_some found
        have place := simple.place?_of_sameFold column same
        exact List.contains_iff_mem.mpr (List.mem_filterMap.mpr
          ⟨p, List.mem_reverse.mp (List.mem_of_find?_eq_some found), place⟩)
      cases found : changes.reverse.find? fun p => Text.sameFold p.1 c.name with
      | none => simp [before]
      | some p =>
        obtain ⟨name, change⟩ := p
        rw [touched _ found]
        cases change with
        | set v => simp [Change.apply, Value.isNull_store]
        | increment =>
          have next : _ = false := counts i c name column found
          simp [Change.apply, Value.isNull_store, next]

/-- An update sets the column of a field to null exactly if null is given for the field. -/
theorem IsMadeOf.setsNull_field (h : t.IsMadeOf e) (template : e.layout = .template)
    (own : e.HasOwnNames) (hf : f ∈ e.fields) {data : ValueMap}
    (once : (data.map Prod.fst).Nodup) (ambient : Ambient) :
    setsNull (Database.rowChanges e data ambient) (columnOf (f.columnText e.layout).spec) =
      (data.get? f.name).any Json.isNull := by
  have named : (columnOf (f.columnText e.layout).spec).name = f.name := rfl
  -- What changes the column is given for the field.
  have given : ∀ p ∈ Database.rowChanges e data ambient, Text.sameFold p.1 f.name = true →
      ∃ v, (f.name, v) ∈ data ∧ p = (f.name, .set (.ofJson v)) := by
    intro p hp same
    rw [Database.rowChanges, template] at hp
    rcases List.mem_append.mp hp with system | field
    · have mem : p.1 ∈ systemColumns := by
        simp only [List.mem_cons, List.not_mem_nil, or_false] at system
        rcases system with rfl | rfl <;> simp [systemColumns]
      rw [Text.sameFold_comm, not_sameFold_of_isSystemColumn (own template f hf) mem] at same
      cases same
    · obtain ⟨q, hq, rfl⟩ := List.mem_map.mp field
      obtain ⟨r, hr, rfl⟩ := List.mem_map.mp hq
      obtain ⟨there, declared⟩ := List.mem_filter.mp hr
      have name := h.eq_name_of_declares hf declared same
      exact ⟨r.2, name ▸ there, by rw [← name]⟩
  rw [setsNull, named]
  cases there : data.get? f.name with
  | some v =>
    have mem : (f.name, v) ∈ data := by
      obtain ⟨before, after, split, -⟩ := List.lookup_eq_some_iff.mp there
      rw [split]
      exact List.mem_append_right _ List.mem_cons_self
    have declared : e.declares f.name = true := by
      rw [Entity.declares, h.field?_eq hf]
      rfl
    have change : (f.name, Change.set (.ofJson v)) ∈ (Database.rowChanges e data ambient).reverse :=
      List.mem_reverse.mpr (List.mem_append_right _ (List.mem_map_of_mem
        (List.mem_map_of_mem (List.mem_filter.mpr ⟨mem, declared⟩))))
    rw [find?_of_only change (Text.sameFold_refl _) fun p hp same => ?_]
    · exact Value.isNull_ofJson v
    · obtain ⟨w, hw, rfl⟩ := given p (List.mem_reverse.mp hp) same
      have only := List.inj_on_of_nodup_map once hw mem rfl
      rw [(Prod.mk.inj only).2]
  | none =>
    rw [List.find?_eq_none.mpr]
    · rfl
    · intro p hp same
      obtain ⟨v, hv, -⟩ := given p (List.mem_reverse.mp hp) same
      have other := List.lookup_eq_none_iff.mp there _ hv
      simp at other

/-- An update sets no column beside the fields to null. -/
theorem setsNull_system (template : e.layout = .template) (own : e.HasOwnNames) (data : ValueMap)
    (ambient : Ambient) : ∀ c ∈ systemColumnTexts,
      setsNull (Database.rowChanges e data ambient) (columnOf c.spec) = false := by
  intro c hc
  have system : c.name ∈ systemColumns := by
    have names : ∀ c ∈ systemColumnTexts, c.name ∈ systemColumns := by decide
    exact names c hc
  have stamps : setsNull [("version", .increment), ("updated_at", .set (.text ambient.now.stored))]
      (columnOf c.spec) = false := by
    refine setsNull_of_values fun p hp v set => ?_
    simp only [List.mem_cons, List.not_mem_nil, or_false] at hp
    rcases hp with rfl | rfl
    · cases set
    · cases set
      rfl
  rw [← stamps, setsNull, setsNull, Database.rowChanges, template, find?_reverse_append]
  intro p hp
  obtain ⟨q, hq, rfl⟩ := List.mem_map.mp hp
  obtain ⟨f, hf, name⟩ := mem_givenValues hq
  show Text.sameFold q.1 c.name = false
  rw [← name]
  exact not_sameFold_of_isSystemColumn (own template f hf) system

/-- An update counts the version on, and no other column. -/
theorem IsBuiltFrom.counts_rowChanges (built : t.IsBuiltFrom m) (layout : m.layout = e.layout)
    (template : e.layout = .template) (data : ValueMap) (ambient : Ambient) {row : Row}
    (version : (t.valueOf row "version").HasNext) :
    t.Counts (Database.rowChanges e data ambient) row := by
  intro i c name column found
  have mem := List.mem_reverse.mp (List.mem_of_find?_eq_some found)
  have same : Text.sameFold name c.name = true := by simpa using List.find?_some found
  obtain rfl : name = "version" := by
    rw [Database.rowChanges, template] at mem
    rcases List.mem_append.mp mem with system | given
    · simp only [List.mem_cons, List.not_mem_nil, or_false] at system
      rcases system with version | updated
      · exact congrArg Prod.fst version
      · cases updated
    · obtain ⟨q, -, set⟩ := List.mem_map.mp given
      cases set
  obtain ⟨j, holds⟩ := built.holds_version (layout.trans template)
  obtain rfl := Option.some.inj
    (holds.place.symm.trans (built.simple.place?_of_sameFold column same))
  rwa [← holds.valueOf_eq]

/-- An update of a row of which all columns are filled breaks null in the first field that is given
it and may not be null. -/
theorem IsMadeOf.nullColumn?_changed (h : t.IsMadeOf e) (built : t.IsBuiltFrom m)
    (layout : m.layout = e.layout) (template : e.layout = .template) (own : e.HasOwnNames)
    (keys : ∀ f ∈ e.fields, f.isKey = true → f.isNotNull = true) {data : ValueMap}
    (once : (data.map Prod.fst).Nodup) {row next : Row}
    (changed : t.changedRow (Database.rowChanges e data ambient) row = .ok next)
    (filled : t.FillsIn {} row) (counts : t.Counts (Database.rowChanges e data ambient) row) :
    (t.nullColumn? (t.extentOf (Database.rowChanges e data ambient)) next).map Column.name =
      (e.nulled? data).map Field.name := by
  rw [nullColumn?_eq fun i c column => breaksNull_changed built.simple changed filled counts column,
    h.find?_columns template]
  · refine congrArg _ (List.find?_congr fun f hf => ?_)
    have plain : t.isNumberColumn (columnOf (f.columnText e.layout).spec).name = false :=
      built.plain_field layout template own hf
    rw [f.notNull_columnText, plain, h.setsNull_field template own hf once,
      Entity.needed_eq keys hf]
    simp
  · intro c hc
    simp [setsNull_system template own data ambient c hc]

end Store.Table

end EntityEngine
