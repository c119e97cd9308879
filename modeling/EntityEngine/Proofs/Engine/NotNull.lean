import EntityEngine.Proofs.Engine.RowAnswer
import EntityEngine.Proofs.Store.FieldNull

/-! Null that is given for a field that may not be null. Where the field is required, null counts as
missing, and the values are not accepted. Where it has a default, the default stands in for a value
that is missing, but null goes to the table as it is, and the row is refused. -/

namespace EntityEngine

open Store

variable {g : Engine} {made : Makings} {d e : Entity}

/-! ### Answers to null -/

/-- What null among some values comes to, for a definition with a table. Under a required field it
is what a missing value is. Else values that are accepted break null in the first field that is given
it and may not be null, for all that this field has a default. -/
structure Engine.AnswersNull (g : Engine) (e : Entity) (t : Table) (values : ValueMap) : Prop where
  required : ∀ f ∈ e.fields, f.isRequired = true → values.get? f.name = some .null →
    ∀ actor ambient,
      g.createRecord e.appId e.code values actor ambient =
          g.createRecord e.appId e.code (values.without f.name) actor ambient ∧
        ∀ key, g.updateRecordByKey e.id key values actor ambient =
          g.updateRecordByKey e.id key (values.without f.name) actor ambient
  optional : ∀ data, prepareValues e values = .ok data → ∀ f, e.nulled? values = some f →
    f.default.isSome = true ∧
      prepareValues e (values.without f.name) = .ok (data.without f.name) ∧
        (e.nulled? (values.without f.name)).map Field.name ≠ some f.name
  inserted : ∀ data, prepareValues e values = .ok data → ∀ ambient, ambient.now.IsShown →
    ∀ column, (g.database.insertRow e data ambient).1 =
        .error (.database (.notNull t.name column)) ↔
      (∃ n, t.nextNumber (Sequence.largest g.database.sequences t.name) = .ok n) ∧
        (e.nulled? values).map Field.name = some column
  updated : ∀ data, prepareValues e values = .ok data → ∀ key,
    (∀ row ∈ t.rows, t.names e key row = true → (t.valueOf row "version").HasNext) →
      ∀ ambient column, g.database.updateRow e key data ambient =
          .error (.database (.notNull t.name column)) ↔
        (∃ row ∈ t.rows, t.names e key row = true) ∧
          (e.nulled? values).map Field.name = some column

/-- A key field may not be null. -/
theorem Run.keysNotNull (h : Run made g) (he : e ∈ g.database.live) :
    ∀ f ∈ e.fields, f.isKey = true → f.isNotNull = true := by
  obtain ⟨fields, id, first, audit, -, stored⟩ := h.storedFields e he
  intro f hf key
  rw [stored] at hf
  obtain ⟨⟨draft, i⟩, -, rfl⟩ := List.mem_map.mp ((List.mergeSort_perm _ _).mem_iff.mp hf)
  show (draft.isNotNull || draft.isKey) = true
  have key : draft.isKey = true := key
  rw [key, Bool.or_true]

/-! ### Rows of a table as it was made -/

section Rows

variable {t : Table} (h : Run made g) (he : e ∈ g.database.live) (created : e.tableCreated = true)
  (template : e.layout = .template) (there : g.database.table? e.table = some t)
  (own : t.IsMadeOf e) {values data : ValueMap} (prepared : prepareValues e values = .ok data)
  {ambient : Ambient} {column : String}

include h he created template there own prepared

/-- A new row is refused for null in the first field that is given it and may not be null, if there
is a number for the row. -/
theorem Run.insertRow_nulled (shown : ambient.now.IsShown) :
    (g.database.insertRow e data ambient).1 = .error (.database (.notNull t.name column)) ↔
      (∃ n, t.nextNumber (Sequence.largest g.database.sequences t.name) = .ok n) ∧
        (e.nulled? values).map Field.name = some column := by
  have inv := h.coherent.inv
  obtain ⟨t', there', -, m, built, layout⟩ := h.builtTable he created
  obtain rfl := Option.some.inj (there'.symm.trans there)
  have names := h.ownNames e he
  have serves := own.fits.serves
  have plain := built.isPlainColumn
  have all := prepareValues_accepted prepared
  obtain rfl := prepareValues_ok prepared
  obtain ⟨row, made⟩ := Table.exists_newValues plain (g.database.context ambient)
    (newValues e (values.restrict e.declares) ambient)
  have number := (built.stamps_newValues (layout.trans template) template names serves.keepsNumbers
    (values.restrict e.declares) ambient).1
  have nulled (n : Int) : (t'.nullColumn? {} ⟨n, t'.numbered n row⟩).map Column.name = _ :=
    own.nullColumn?_new built layout template names (h.keysNotNull he) shown
      (missingField?_restrict.trans all) made
  rw [Database.insertRow_refused_iff inv.tidy h.built.simple (inv.sound.named e he) there plain
      serves, Table.insertion_refused_iff built.simple built.checks_eq made]
  simp only [Table.numberFor, number, nulled, Entity.nulled?_restrict]
  exact exists_and_right

/-- A row whose version has a next one is not changed for null in the first field that is given it
and may not be null. -/
theorem Run.updateRow_nulled (once : (values.map Prod.fst).Nodup) {key : String}
    (next : ∀ row ∈ t.rows, t.names e key row = true → (t.valueOf row "version").HasNext) :
    g.database.updateRow e key data ambient = .error (.database (.notNull t.name column)) ↔
      (∃ row ∈ t.rows, t.names e key row = true) ∧
        (e.nulled? values).map Field.name = some column := by
  have inv := h.coherent.inv
  obtain ⟨t', there', orderly, m, built, layout⟩ := h.builtTable he created
  obtain rfl := Option.some.inj (there'.symm.trans there)
  have names := h.ownNames e he
  have serves := own.fits.serves
  have suits := h.suits e.table t' there
  have keyed : t'.IsKeyedBy e := built.isKeyedBy layout own.fits.primary
  obtain rfl := prepareValues_ok prepared
  have stamped : Database.rowChanges e (values.restrict e.declares) ambient ≠ [] := by
    rw [Database.rowChanges, template]
    exact List.cons_ne_nil _ _
  have each : ∀ row ∈ t'.rows, t'.names e key row = true →
      (t'.replacement (g.database.context ambient)
          (Database.rowChanges e (values.restrict e.declares) ambient) row =
        .error (.notNull t'.name column) ↔ (e.nulled? values).map Field.name = some column) := by
    intro row hr named
    obtain ⟨changed, eq⟩ : ∃ changed, t'.changedRow
        (Database.rowChanges e (values.restrict e.declares) ambient) row = .ok changed := by
      rw [Table.changedRow, built.changedNumber?_rowChanges layout names serves]
      exact ⟨_, rfl⟩
    rw [Table.replacement_refused_iff built.simple built.checks_eq eq,
      own.nullColumn?_changed built layout template names (h.keysNotNull he)
        (ValueMap.nodup_restrict once e.declares) eq (suits row hr).filled
        (built.counts_rowChanges layout template _ ambient (next row hr named)),
      Entity.nulled?_restrict]
  rw [Database.updateRow_refused_iff inv.tidy h.built.simple (inv.sound.named e he) there orderly
    (h.numbers e.table t' there) serves
    (fun r hr s hs => keyed.eq_of_names built layout orderly suits hr hs) stamped]
  constructor
  · rintro ⟨row, hr, named, refused⟩
    exact ⟨⟨row, hr, named⟩, (each row hr named).mp refused⟩
  · rintro ⟨⟨row, hr, named⟩, nulled⟩
    exact ⟨row, hr, named, (each row hr named).mpr nulled⟩

end Rows

/-- In every run that leaves the types of columns open, for a definition with the table of a template
that was made of the fields it has: null counts as missing where the field is required. But values
that are accepted are refused by the table, for a new row as for one that is there, exactly if null
is given for a field that may not be null, which then has a default; had nothing been given for it,
they could be refused for another field only. -/
theorem null_beside_default_refused (h : Run made g) (he : e ∈ g.database.live)
    (created : e.tableCreated = true) (template : e.layout = .template)
    (known : made e.id = some d) (current : d.fields = e.fields) :
    ∃ t, g.database.table? e.table = some t ∧
      ∀ values, (values.map Prod.fst).Nodup → g.AnswersNull e t values := by
  have inv := h.coherent.inv
  obtain ⟨t, there, own⟩ := h.currentTable he created known current
  refine ⟨t, there, fun values once => ⟨?required, ?optional, ?inserted, ?updated⟩⟩
  case required =>
    intro f hf required null actor ambient
    obtain ⟨fault, refused, refused'⟩ := prepareValues_without hf required null
    constructor
    · simp only [Engine.createRecord, inv.resolve_live he, refused, refused']
    · intro key
      simp only [Engine.updateRecordByKey, inv.resolveId_live he, created, if_true, refused,
        refused']
  case optional =>
    intro data prepared f nulled
    obtain ⟨default, without⟩ := prepareValues_nulled prepared nulled
    exact ⟨default, without, e.nulled?_without values f.name⟩
  case inserted =>
    intro data prepared ambient shown column
    exact h.insertRow_nulled he created template there own prepared shown
  case updated =>
    intro data prepared key next ambient column
    exact h.updateRow_nulled he created template there own prepared once next

/-! ### Items with a number that has a default -/

def declareItems : Operation :=
  .createEntity
    { appId := 1
      name := "Item"
      table := "item"
      code := some "item"
      fields := [{ name := "n", type := .integer, isNotNull := true, default := some "1" }]
      autoCreate := true }
    "a" ⟨⟨0, 0⟩, "r", "c"⟩

def storeItem : Operation := .createRecord 1 "item" [("n", .integer 5)] "a" ⟨⟨0, 0⟩, "r", "c"⟩

def declaredItems : Engine := declareItems.run (.start .empty "")

/-- One item. -/
def items : Engine := storeItem.run declaredItems

/-- Null is accepted as the number of an item, and there is room for another row, besides one that a
key names. -/
def TakesNullItem (db : Database) : Prop :=
  (db.entity? 1).any (fun e => e.tableCreated && e.layout == .template &&
    (prepareValues e [("n", .null)]).toOption == some [("n", .null)] &&
      (e.nulled? [("n", .null)]).map Field.name == some "n" &&
        (db.table? e.table).any fun t =>
          (t.nextNumber (Sequence.largest db.sequences t.name)).toOption.isSome &&
            t.rows.any (t.names e "r") && t.rows.all fun row =>
              (t.valueOf row "version") == .integer 1) = true

instance (db : Database) : Decidable (TakesNullItem db) := inferInstanceAs (Decidable (_ = true))

theorem items_takeNull : TakesNullItem items.database := by
  rw [items, declaredItems, declareItems]
  exact Operation.run_of_any (fun g => TakesNullItem (storeItem.run g).database) (by decide +kernel)

def madeItems : Makings :=
  Makings.after (.after (fun _ => none) (.start .empty "") declaredItems) declaredItems items

theorem run_declaredItems :
    Run (.after (fun _ => none) (.start .empty "") declaredItems) declaredItems := by
  refine .step declareItems (.start "") fun f hf => ?_
  rw [List.mem_singleton.mp hf]
  rfl

theorem run_items : Run madeItems items :=
  .step storeItem run_declaredItems fun _ hf => absurd hf List.not_mem_nil

theorem storeItem_entity? {g : Engine} (inv : g.Inv) (id : Int) :
    (storeItem.run g).database.entity? id = g.database.entity? id := by
  have step : Engine.RecordStep _ _ (fun _ => False) g (storeItem.run g) :=
    Engine.createRecord_step inv 1 "item" [("n", .integer 5)] "a" ⟨⟨0, 0⟩, "r", "c"⟩
  exact step.entity? id

/-- The table was made of the definition as it is. -/
theorem madeItems_eq (found : items.database.entity? 1 = some e) (created : e.tableCreated = true) :
    madeItems 1 = some e := by
  have before : declaredItems.database.entity? 1 = some e :=
    (storeItem_entity? run_declaredItems.coherent.inv 1).symm.trans found
  rw [madeItems, Makings.after_of_made before created, Makings.after_of_unmade before created rfl]

/-- A new item without a number that is null is refused, and so is an update of the one that is
there, though the values are accepted, and the number has a default. -/
theorem item_null_refused : ∃ e ∈ items.database.live, ∃ t, items.database.table? e.table = some t ∧
    prepareValues e [("n", .null)] = .ok [("n", .null)] ∧
      ((e.nulled? [("n", .null)]).bind Field.default).isSome = true ∧
      (items.database.insertRow e [("n", .null)] ⟨⟨1, 0⟩, "s", "c"⟩).1 =
          .error (.database (.notNull t.name "n")) ∧
        items.database.updateRow e "r" [("n", .null)] ⟨⟨1, 0⟩, "s", "c"⟩ =
          .error (.database (.notNull t.name "n")) := by
  have takes := items_takeNull
  rw [TakesNullItem, Option.any_eq_true] at takes
  obtain ⟨e, found, facts⟩ := takes
  simp only [Bool.and_eq_true, beq_iff_eq] at facts
  obtain ⟨⟨⟨⟨created, template⟩, accepted⟩, nulled⟩, room⟩ := facts
  obtain ⟨he, id⟩ := run_items.coherent.inv.sound.entity?_iff.mp found
  have known : madeItems e.id = some e := by
    rw [id]
    exact madeItems_eq found created
  obtain ⟨t, there, answers⟩ :=
    null_beside_default_refused run_items he created template known rfl
  have answer := answers [("n", .null)] (by simp)
  have prepared := toOption_some accepted
  rw [there, Option.any_some] at room
  simp only [Bool.and_eq_true] at room
  obtain ⟨⟨number, named⟩, first⟩ := room
  obtain ⟨f, nulled', name⟩ := Option.map_eq_some_iff.mp nulled
  obtain ⟨n, next⟩ := Option.isSome_iff_exists.mp number
  refine ⟨e, he, t, there, prepared, ?default, ?inserted, ?updated⟩
  case default =>
    rw [nulled']
    exact (answer.optional _ prepared f nulled').1
  case inserted =>
    exact (answer.inserted _ prepared ⟨⟨1, 0⟩, "s", "c"⟩ (by decide +kernel) "n").mpr
      ⟨⟨n, toOption_some next⟩, nulled⟩
  case updated =>
    refine (answer.updated _ prepared "r" (fun row hr _ => ?_) _ "n").mpr ⟨?_, nulled⟩
    · rw [beq_iff_eq.mp (List.all_eq_true.mp first row hr)]
      exact Sql.Value.hasNext_integer rfl
    · obtain ⟨row, hr, own⟩ := List.any_eq_true.mp named
      exact ⟨row, hr, own⟩

end EntityEngine
