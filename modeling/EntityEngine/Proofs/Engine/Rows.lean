import EntityEngine.Proofs.Engine.Chronology
import EntityEngine.Proofs.Engine.TextQuery
import EntityEngine.Proofs.Store.RowValues

/-! What is stored in the table of a template is what every way of reading the row shows, as far as
the values come back from the columns of their fields. -/

namespace EntityEngine

open Store

variable {g : Engine} {made : Makings} {t : Table} {d e : Entity}

theorem Store.Table.IsMadeOf.of_fields (h : t.IsMadeOf d) (table : d.table = e.table)
    (kind : d.kind = e.kind) (fields : d.fields = e.fields) : t.IsMadeOf e := by
  have layout : d.layout = e.layout := congrArg EntityKind.layout kind
  have text : d.tableText = e.tableText := by
    simp only [Entity.tableText, Entity.keys, table, layout, fields]
  obtain ⟨⟨some, derived⟩, spec, declared, form⟩ := h
  rw [fields] at some derived
  rw [layout] at derived
  rw [text] at declared form
  exact ⟨⟨some, derived⟩, spec, declared, form⟩

/-- The table of a definition is made of its fields, if it was made of fields that it still has. -/
theorem Run.currentTable (h : Run made g) (he : e ∈ g.database.live)
    (created : e.tableCreated = true) (known : made e.id = some d) (current : d.fields = e.fields) :
    ∃ t, g.database.table? e.table = some t ∧ t.IsMadeOf e := by
  obtain ⟨d', t, known', precedes, there, own⟩ := h.table he created
  obtain rfl := Option.some.inj (known'.symm.trans known)
  exact ⟨t, there, own.of_fields precedes.table precedes.kind current⟩

/-- A table hides the numbers of its rows only if a field is named so. -/
theorem Store.Table.IsMadeOf.not_hasColumn_rowid (h : t.IsMadeOf e)
    (other : ∀ f ∈ e.fields, Text.sameFold f.name "rowid" = false) :
    t.hasColumn "rowid" = false := by
  have system : ∀ name ∈ systemColumns, Text.sameFold name "rowid" = false := by decide
  have apart : ∀ name ∈ e.columns, Text.sameFold name "rowid" = false := by
    intro name mem
    have cases : name ∈ systemColumns ∨ name ∈ e.fields.map Field.name := by
      unfold Entity.columns at mem
      split at mem
      · exact List.mem_append.mp mem
      · exact Or.inr mem
    rcases cases with own | field
    · exact system name own
    · obtain ⟨f, hf, rfl⟩ := List.mem_map.mp field
      exact other f hf
  rw [← Bool.not_eq_true, Table.hasColumn_iff, h.fits.columns]
  intro mem
  obtain ⟨name, hname, same⟩ := List.mem_map.mp mem
  have other := apart name hname
  rw [Text.sameFold_iff.mpr same] at other
  cases other

/-- In every run that leaves the types of columns open, a row that is stored in the table of a
template, as that was made of its fields, is shown alike under its identifier, in queries, and as the
answer, unless a field hides the numbers of rows. Under a field it shows the value that was given,
exactly if the value comes back from a column of the field's type. -/
theorem row_round_trip (h : Run made g) (he : e ∈ g.database.live) (created : e.tableCreated = true)
    (template : e.layout = .template) (known : made e.id = some d) (current : d.fields = e.fields)
    {data : ValueMap} {ambient : Ambient} {found : ValueMap} {database : Database}
    (stored : g.database.insertRow e data ambient = (.ok found, database)) :
    ∃ shown, database.ShowsRow e ambient.recordId shown ∧
      ((∀ f ∈ e.fields, Text.sameFold f.name "rowid" = false) → found = shown) ∧
      ∀ f ∈ e.fields, ∀ v, data.get? f.name = some v → f.type.Has v →
        (shown.get? f.name = some v ↔ f.type.GivesBack v) := by
  have inv := h.coherent.inv
  have free := inv.sound.named e he
  obtain ⟨t, there, own⟩ := h.currentTable he created known current
  obtain ⟨t', there', -, m, built, layout⟩ := h.builtTable he created
  obtain rfl := Option.some.inj (there'.symm.trans there)
  obtain ⟨u, now, bare, orderly, new, hn, makes, row, hr, rfl, plain, value⟩ :=
    Database.insertRow_ok inv.tidy h.built free there built layout stored
  have tidy : database.Tidy := by
    have frame : Database.RowFrame True g.database (g.database.insertRow e data ambient).2 :=
      Database.insertRow_frame inv.tidy free
    rw [stored] at frame
    exact frame.tidy inv.tidy
  refine ⟨u.shown e new, Database.showsRow tidy free now (built.of_bare bare) layout template
    orderly hn (value template), fun other => ?_, fun f hf v there has =>
    own.get?_new_iff built template (h.ownNames e he) hf there has makes bare⟩
  have unhidden : u.hasColumn "rowid" = false := by
    show u.bare.hasColumn "rowid" = false
    rw [bare]
    exact own.not_hasColumn_rowid other
  rw [plain unhidden]

/-- The definition has a table as a template, with a field for the code, and takes a row. -/
def TakesCode (db : Database) : Prop :=
  (db.entity? 1).any (fun e =>
    e.tableCreated && e.layout == .template &&
      e.fields.any (fun f => f.name == "code" && f.type == .string) &&
        (db.insertRow e [("code", .text "007")] ⟨⟨0, 0⟩, "r", "c"⟩).1.toOption.isSome) = true

instance (db : Database) : Decidable (TakesCode db) := inferInstanceAs (Decidable (_ = true))

/-- A code that looks like a number comes back from a column of texts. -/
theorem code_round_trip : ∃ e ∈ declaredParts.database.live, ∃ found database,
    declaredParts.database.insertRow e [("code", .text "007")] ⟨⟨0, 0⟩, "r", "c"⟩ =
      (.ok found, database) ∧
    ∃ shown, database.ShowsRow e "r" shown ∧ shown.get? "code" = some (.text "007") := by
  have takes : TakesCode declaredParts.database := by
    rw [declaredParts, declareParts]
    exact Operation.run_of_any (fun g => TakesCode g.database) (by decide +kernel)
  rw [TakesCode, Option.any_eq_true] at takes
  obtain ⟨e, found, facts⟩ := takes
  simp only [Bool.and_eq_true, beq_iff_eq] at facts
  obtain ⟨⟨⟨created, template⟩, field⟩, done⟩ := facts
  obtain ⟨f, hf, declared⟩ := List.any_eq_true.mp field
  simp only [Bool.and_eq_true, beq_iff_eq] at declared
  obtain ⟨name, type⟩ := declared
  obtain ⟨he, id⟩ := run_declaredParts.coherent.inv.sound.entity?_iff.mp found
  have known : partsDeclared e.id = some e := by
    rw [id]
    exact Makings.after_of_unmade found created rfl
  cases stored : declaredParts.database.insertRow e [("code", .text "007")] ⟨⟨0, 0⟩, "r", "c"⟩ with
  | mk result database =>
    rw [stored] at done
    cases result with
    | error f => cases done
    | ok row =>
      obtain ⟨shown, shows, -, values⟩ :=
        row_round_trip run_declaredParts he created template known rfl stored
      refine ⟨e, he, row, database, stored, shown, shows, ?_⟩
      have there : ValueMap.get? [("code", .text "007")] f.name = some (.text "007") := by
        rw [name]
        rfl
      have has : f.type.Has (.text "007") := by
        rw [type]
        exact ⟨_, rfl⟩
      rw [← name]
      refine (values f hf _ there has).mpr fun json => ?_
      rw [type] at json
      cases json

end EntityEngine
