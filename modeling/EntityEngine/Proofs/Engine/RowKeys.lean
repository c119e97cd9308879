import EntityEngine.Proofs.Engine.Versions
import EntityEngine.Proofs.Store.RowKeys

/-! Updates and deletions under a key, in runs that leave the types of columns open. They touch the
rows that the key names, as the definition is now. That is one row at most as long as the key fields
tell the rows of the table apart, and so it is until fields are replaced under the table. -/

namespace EntityEngine

open Store

variable {g : Engine} {made : Makings} {e : Entity}

theorem Operation.Writes.isGiven {op : Operation} {statement : Statement}
    (act : op.Writes e statement) : statement.IsGiven := by
  cases op with
  | createRecord appId code values actor ambient =>
    obtain ⟨-, data, -, rfl⟩ := act
    exact Database.isGiven_newValues e data ambient
  | updateRecordByKey entityId key values actor ambient =>
    obtain ⟨-, data, -, rfl⟩ := act
    exact Database.isGiven_rowChanges e data ambient
  | deleteRecordByKey entityId key =>
    obtain ⟨-, rfl⟩ := act
    trivial
  | _ => exact act.elim

/-- Rows have values such as their columns keep. -/
theorem Run.suits (h : Run made g) (name : String) :
    ∀ t, g.database.table? name = some t → ∀ r ∈ t.rows, t.Suits r :=
  h.table_invariant (P := fun t => ∀ r ∈ t.rows, t.Suits r)
    (fun t empty r hr => absurd hr (by simp [empty]))
    fun run act write older => write.suits run.coherent.inv.tidy run.built act.isGiven older

/-! ### Operations under a key -/

theorem Engine.updateRecordByKey_touches (h : Run made g) (he : e ∈ g.database.live)
    (created : e.tableCreated = true) {t : Table} (there : g.database.table? e.table = some t)
    (key : String) (values : ValueMap) (actor : String) (ambient : Ambient) :
    ∃ u, (g.updateRecordByKey e.id key values actor ambient).2.database.table? e.table = some u ∧
      t.TouchesOnly u (t.names e key) := by
  have inv := h.coherent.inv
  have unchanged : ∃ u, g.database.table? e.table = some u ∧ t.TouchesOnly u (t.names e key) :=
    ⟨t, there, .refl t _⟩
  unfold updateRecordByKey
  rw [inv.resolveId_live he]
  simp only [created, if_true]
  split
  · exact unchanged
  · rename_i data _
    cases updated : g.database.updateRow e key data ambient with
    | error f => exact unchanged
    | ok p =>
      exact Database.updateRow_touches inv.tidy h.built.simple (inv.sound.named e he) there
        (h.numbers e.table t there) updated

theorem Engine.deleteRecordByKey_table (h : Run made g) (he : e ∈ g.database.live)
    (created : e.tableCreated = true) {t : Table} (there : g.database.table? e.table = some t)
    (key : String) : (g.deleteRecordByKey e.id key).2.database.table? e.table =
      some (t.withoutNamed e key) := by
  have inv := h.coherent.inv
  unfold deleteRecordByKey
  rw [inv.resolveId_live he]
  simp only [created, if_true]
  rcases Database.deleteRow_cases inv.tidy h.built.simple (inv.sound.named e he) there
    (h.numbers e.table t there) key with ⟨-, deleted⟩ | ⟨none, refused⟩
  · rw [deleted]
    exact Database.table?_putTable (u := t.withoutNamed e key) there rfl
  · rw [refused]
    have all : t.rows.filter (fun r => !t.names e key r) = t.rows := by
      refine List.filter_eq_self.mpr fun r hr => ?_
      rw [Bool.not_eq_true']
      simpa using List.any_eq_false.mp none r hr
    show g.database.table? e.table = _
    rw [there, Table.withoutNamed, all]

/-- In every run that leaves the types of columns open, an update of a record of an entity with a
table, under any key, touches no row of the table but those that the key names, and a deletion
removes just those. A key names one row at most if the key fields tell rows apart: those of a
definition that has the primary key of its table do. -/
theorem key_touches_named (h : Run made g) (he : e ∈ g.database.live)
    (created : e.tableCreated = true) (key : String) :
    ∃ d t, made e.id = some d ∧ g.database.table? e.table = some t ∧
      (∀ values actor ambient, ∃ u,
        (g.updateRecordByKey e.id key values actor ambient).2.database.table? e.table = some u ∧
          t.TouchesOnly u (t.names e key)) ∧
      (g.deleteRecordByKey e.id key).2.database.table? e.table = some (t.withoutNamed e key) ∧
      (t.IsKeyedBy e → (t.rows.filter (t.names e key)).length ≤ 1) ∧
      (e.primaryKey.map Text.fold = d.primaryKey.map Text.fold → t.IsKeyedBy e) := by
  obtain ⟨d, t, known, precedes, there, own⟩ := h.table he created
  obtain ⟨t', there', orderly, m, built, layout⟩ := h.builtTable he created
  obtain rfl := Option.some.inj (there'.symm.trans there)
  refine ⟨d, t', known, there, Engine.updateRecordByKey_touches h he created there key,
    Engine.deleteRecordByKey_table h he created there key, fun keyed => ?_, fun same => ?_⟩
  · exact keyed.length_names_le_one built layout orderly (h.suits e.table t' there)
      (h.numbers e.table t' there) key
  · exact built.isKeyedBy layout (own.fits.primary.trans same.symm)

/-! ### A key field that is renamed -/

def storeSecond : Operation := .createRecord 1 "goods" [("sku", .integer 6)] "a" ⟨⟨0, 0⟩, "r", "c"⟩

/-- Two rows of goods. -/
def twoGoods : Engine := storeSecond.run goods

def declaredGoods : Engine := declareGoods.run (.start .empty "")

def madeGoods : Makings :=
  Makings.after (.after (.after (fun _ => none) (.start .empty "") declaredGoods) declaredGoods goods)
    goods twoGoods

theorem run_twoGoods : Run madeGoods twoGoods := by
  have none : ∀ op : Operation, op.fields = [] → LeaveTypes op.fields := by
    intro op bare f hf
    rw [bare] at hf
    cases hf
  exact .step storeSecond (.step storeGood (.step declareGoods (.start "") leaveTypes_goods.2.1)
    (none storeGood rfl)) (none storeSecond rfl)

/-- The table was made of the definition as it is. -/
theorem madeGoods_eq {e : Entity} (found : twoGoods.database.entity? 1 = some e)
    (created : e.tableCreated = true) : madeGoods 1 = some e := by
  have kept : ∀ {g : Engine}, g.Inv → ∀ values,
      ((Operation.createRecord 1 "goods" values "a" ⟨⟨0, 0⟩, "r", "c"⟩).run g).database.entity? 1 =
        g.database.entity? 1 := by
    intro g inv values
    have step : Engine.RecordStep _ _ (fun _ => False) g _ :=
      Engine.createRecord_step inv 1 "goods" values "a" ⟨⟨0, 0⟩, "r", "c"⟩
    exact step.entity? 1
  have declared : Run _ declaredGoods := .step declareGoods (.start "") leaveTypes_goods.2.1
  have stored : Run _ goods := .step storeGood declared fun f hf => absurd hf List.not_mem_nil
  have second : goods.database.entity? 1 = some e :=
    (kept stored.coherent.inv [("sku", .integer 6)]).symm.trans found
  have first : declaredGoods.database.entity? 1 = some e :=
    (kept declared.coherent.inv [("sku", .integer 5)]).symm.trans second
  rw [madeGoods, Makings.after_of_made second created, Makings.after_of_made first created,
    Makings.after_of_unmade first created rfl]

/-- The number of rows of goods. -/
def Engine.goodsCount (g : Engine) : Option Nat :=
  (g.database.table? "goods").map fun t => t.rows.length

theorem exists_twoGoods {P : Entity → Bool}
    (any : (twoGoods.database.entity? 1).any (fun e => e.tableCreated && P e) = true) :
    ∃ e ∈ twoGoods.database.live, e.tableCreated = true ∧ P e = true ∧ madeGoods e.id = some e := by
  obtain ⟨e, found, facts⟩ := (Option.any_eq_true _ _).mp any
  obtain ⟨created, own⟩ := Bool.and_eq_true_iff.mp facts
  obtain ⟨he, id⟩ := run_twoGoods.coherent.inv.sound.entity?_iff.mp found
  refine ⟨e, he, created, own, ?_⟩
  rw [id]
  exact madeGoods_eq found created

/-- A key of goods names one row at most, and a deletion removes it alone. -/
theorem key_touches_named_goods : ∃ e ∈ twoGoods.database.live, ∃ t,
    twoGoods.database.table? e.table = some t ∧ (t.rows.filter (t.names e "5")).length ≤ 1 ∧
      (twoGoods.deleteRecordByKey e.id "5").2.database.table? e.table =
        some (t.withoutNamed e "5") := by
  have any : (twoGoods.database.entity? 1).any (fun e => e.tableCreated && true) = true := by
    decide +kernel
  obtain ⟨e, he, created, -, known⟩ := exists_twoGoods any
  obtain ⟨d, t, known', there, -, deleted, named, keyed⟩ :=
    key_touches_named run_twoGoods he created "5"
  obtain rfl := Option.some.inj (known.symm.trans known')
  exact ⟨e, he, t, there, named (keyed rfl), deleted⟩

/-- Once the key field is renamed, it is no column of the table, where its name stands for a text.
That text as a key names all rows. -/
theorem renamed_key_names_all : (∃ made, Run made (renameKey.run twoGoods)) ∧
    twoGoods.goodsCount = some 2 ∧
      ((renameKey.run twoGoods).deleteRecordByKey 1 "code").2.goodsCount = some 0 := by
  refine ⟨⟨_, .step renameKey run_twoGoods leaveTypes_goods.2.2⟩, ?_, ?_⟩
  · decide +kernel
  · decide +kernel

end EntityEngine
