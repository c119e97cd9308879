import EntityEngine.Proofs.Engine.RowKeys
import EntityEngine.Proofs.Engine.Rows
import EntityEngine.Proofs.Store.RowAnswer

/-! What the write of a row answers, in runs that leave the types of columns open. It is refused, and
no table changes, or one row is written, and the answer is that row. Both hold of a table as it was
made of the fields that there are, unless one of them has the name under which rows are numbered. -/

namespace EntityEngine

open Store

variable {g : Engine} {made : Makings} {d e : Entity}

/-- In every run that leaves the types of columns open, of a definition with a table that was made of
the fields that there are, none of them called `rowid`: whatever values are given, a new row is
refused, and the tables stay as they are, or it stands beside the rows that there were, and is the
answer. An update, under whatever key and with whatever values, is refused as well, for there is no
row of the key or the row may not be changed so, or it puts in the place of the one row of the key
what it makes of it, under the same number, and that is the answer. -/
theorem row_write_answers (h : Run made g) (he : e ∈ g.database.live)
    (created : e.tableCreated = true) (known : made e.id = some d) (current : d.fields = e.fields)
    (unhidden : ∀ f ∈ e.fields, Text.sameFold f.name "rowid" = false) :
    ∃ t, g.database.table? e.table = some t ∧
      (∀ data ambient, g.database.Inserts e t (newValues e data ambient)
        (g.database.insertRow e data ambient)) ∧
      ∀ key data ambient, g.database.Updates e t key (Database.rowChanges e data ambient)
        (g.database.context ambient) (g.database.updateRow e key data ambient) := by
  have inv := h.coherent.inv
  have simple := h.built.simple
  have free := inv.sound.named e he
  obtain ⟨t, there, own⟩ := h.currentTable he created known current
  obtain ⟨t', there', orderly, m, built, layout⟩ := h.builtTable he created
  obtain rfl := Option.some.inj (there'.symm.trans there)
  have once := h.numbers e.table t' there
  have plain := own.not_hasColumn_rowid unhidden
  have key : t'.IsKeyedBy e := built.isKeyedBy layout own.fits.primary
  refine ⟨t', there, Database.inserts_of_plain inv.tidy simple free there orderly once plain,
    fun _ => Database.updates_of_plain inv.tidy simple free there orderly once built layout
      (h.ownNames e he) own.fits.serves plain ?_⟩
  exact fun r hr s hs => key.eq_of_names built layout orderly (h.suits e.table t' there) hr hs

theorem row_write_answers_goods : ∃ e ∈ twoGoods.database.live, ∃ t,
    twoGoods.database.table? e.table = some t ∧
      (∀ data ambient, twoGoods.database.Inserts e t (newValues e data ambient)
        (twoGoods.database.insertRow e data ambient)) ∧
      ∀ key data ambient, twoGoods.database.Updates e t key (Database.rowChanges e data ambient)
        (twoGoods.database.context ambient) (twoGoods.database.updateRow e key data ambient) := by
  have any : (twoGoods.database.entity? 1).any (fun e => e.tableCreated &&
      e.fields.all fun f => !Text.sameFold f.name "rowid") = true := by
    decide +kernel
  obtain ⟨e, he, created, unhidden, known⟩ := exists_twoGoods any
  obtain ⟨t, there, answers⟩ := row_write_answers run_twoGoods he created known rfl
    (by simpa using unhidden)
  exact ⟨e, he, t, there, answers⟩

/-! ### A field that hides the numbers of rows -/

def declareCounted : Operation :=
  .createEntity
    { appId := 1
      name := "Counted"
      table := "counted"
      code := some "counted"
      kind := .static
      fields := [{ name := "rowid", type := .integer, isKey := true }]
      autoCreate := true }
    "a" ⟨⟨0, 0⟩, "r", "c"⟩

def storeCounted (n : Int) : Operation :=
  .createRecord 1 "counted" [("rowid", .integer n)] "a" ⟨⟨0, 0⟩, "r", "c"⟩

def recount (key : String) (n : Int) : Operation :=
  .updateRecordByKey 1 key [("rowid", .integer n)] "a" ⟨⟨0, 0⟩, "r", "c"⟩

/-- One row, the first one, under the key 2. -/
def counted : Engine :=
  (recount "1" 2).run ((storeCounted 1).run (declareCounted.run (.start .empty "")))

/-- What a new row under a key answers. -/
def Engine.countedAnswer (g : Engine) (n : Int) : Option StoredRecord :=
  (g.createRecord 1 "counted" [("rowid", .integer n)] "a" ⟨⟨0, 0⟩, "r", "c"⟩).1.toOption

def Engine.countedRows (g : Engine) : Option Nat :=
  (g.database.table? "counted").map fun t => t.rows.length

theorem run_counted : ∃ made, Run made counted := by
  have left : ∀ op : Operation, (op = declareCounted ∨ op.fields = []) → LeaveTypes op.fields := by
    rintro op (rfl | bare) f hf
    · rw [List.mem_singleton.mp hf]
      rfl
    · rw [bare] at hf
      cases hf
  exact ⟨_, .step (recount "1" 2) (.step (storeCounted 1) (.step declareCounted (.start "")
    (left _ (.inl rfl))) (left _ (.inr rfl))) (left _ (.inr rfl))⟩

/-- A second row is stored, and the first one is the answer, for its key is the number of the second
one. -/
theorem counted_answers_other : (∃ made, Run made counted) ∧ counted.countedRows = some 1 ∧
    ((storeCounted 5).run counted).countedRows = some 2 ∧
      counted.countedAnswer 5 = some (.row [("id", .integer 2), ("rowid", .integer 2)]) :=
  ⟨run_counted, by decide +kernel⟩

end EntityEngine
