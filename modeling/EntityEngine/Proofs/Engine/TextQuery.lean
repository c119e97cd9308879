import EntityEngine.Proofs.Engine.Coherence
import EntityEngine.Proofs.Engine.Making
import EntityEngine.Proofs.Query.TextEquality

/-! Queries by text, as parameters ask for them, and a numeral among the texts of a table that such
a query misses. -/

namespace EntityEngine

open Sql Store

/-- Parts by their code, in a table that is made at once. -/
def declareParts : Operation :=
  .createEntity
    { appId := 1
      name := "Part"
      table := "part"
      code := some "part"
      fields := [{ name := "code", type := .string }]
      autoCreate := true }
    "a" ⟨⟨0, 0⟩, "r", "c"⟩

/-- A part whose code looks like a number. -/
def storePart : Operation := .createRecord 1 "part" [("code", .text "007")] "a" ⟨⟨0, 0⟩, "r", "c"⟩

theorem storePart_step {g : Engine} (inv : g.Inv) :
    Engine.RecordStep storePart.Writes storePart.Adds storePart.Names g (storePart.run g) :=
  Engine.createRecord_step inv 1 "part" [("code", .text "007")] "a" ⟨⟨0, 0⟩, "r", "c"⟩

def declaredParts : Engine := declareParts.run (.start .empty "")

def parts : Engine := storePart.run declaredParts

/-- A definition with a table, in which a row holds the code. -/
def HoldsCode (db : Database) : Prop :=
  (db.entity? 1).any (fun e =>
    e.tableCreated && e.fields.any (fun f => f.name == "code" && f.type.isTextual) &&
      (db.needTable e.table).toOption.any fun t =>
        t.rows.any fun row => (t.reader row (.column "code")).value == .text "007") = true

instance (db : Database) : Decidable (HoldsCode db) := inferInstanceAs (Decidable (_ = true))

theorem parts_hold : HoldsCode parts.database := by
  rw [parts, declaredParts, declareParts]
  exact Operation.run_of_any (fun g => HoldsCode (storePart.run g).database) (by decide +kernel)

def partsDeclared : Makings := Makings.after (fun _ => none) (.start .empty "") declaredParts

theorem run_declaredParts : Run partsDeclared declaredParts := by
  refine .step declareParts (.start "") fun f hf => ?_
  rw [List.mem_singleton.mp hf]
  rfl

theorem run_parts : Run (partsDeclared.after declaredParts parts) parts :=
  .step storePart run_declaredParts fun _ hf => absurd hf List.not_mem_nil

/-- The table was made of the definition as it is. -/
theorem parts_made {e : Entity} (found : parts.database.entity? 1 = some e)
    (created : e.tableCreated = true) :
    ∃ t, parts.database.table? e.table = some t ∧ t.IsMadeOf e := by
  have stored := storePart_step run_declaredParts.coherent.inv
  have before : declaredParts.database.entity? 1 = some e := (stored.entity? 1).symm.trans found
  obtain ⟨he, id⟩ := run_parts.coherent.inv.sound.entity?_iff.mp found
  obtain ⟨d, t, known, -, there, own⟩ := run_parts.table he created
  rw [id, Makings.after_of_made before created, partsDeclared,
    Makings.after_of_unmade before created rfl] at known
  rw [← Option.some.inj known] at own
  exact ⟨t, there, own⟩

theorem HoldsCode.exists {db : Database} (h : HoldsCode db)
    (made : ∀ e, db.entity? 1 = some e → e.tableCreated = true →
      ∃ t, db.table? e.table = some t ∧ t.IsMadeOf e) :
    ∃ e ∈ db.live, ∃ f ∈ e.fields, f.name = "code" ∧ f.type.isTextual = true ∧
      ∃ t, db.needTable e.table = .ok t ∧ t.IsMadeOf e ∧
        ∃ row ∈ t.rows, (t.reader row (.column f.name)).value = .text "007" := by
  rw [HoldsCode, Option.any_eq_true] at h
  obtain ⟨e, found, facts⟩ := h
  simp only [Bool.and_eq_true] at facts
  obtain ⟨⟨created, field⟩, stored⟩ := facts
  obtain ⟨f, hf, declared⟩ := List.any_eq_true.mp field
  obtain ⟨name, textual⟩ := Bool.and_eq_true_iff.mp declared
  obtain ⟨t, there, own⟩ := made e found created
  have needed : db.needTable e.table = .ok t := by
    simp [Database.needTable, Database.anyTable?, there]
  rw [needed] at stored
  obtain ⟨row, hr, value⟩ := List.any_eq_true.mp stored
  rw [beq_iff_eq] at name value
  refine ⟨e, List.mem_of_find?_eq_some found, f, hf, name, textual, t, needed, own, row, hr, ?_⟩
  rw [name]
  exact value

theorem exists_parts : ∃ e ∈ parts.database.live, ∃ f ∈ e.fields, f.name = "code" ∧
    f.type.isTextual = true ∧ ∃ t, parts.database.needTable e.table = .ok t ∧ t.IsMadeOf e ∧
      ∃ row ∈ t.rows, (t.reader row (.column f.name)).value = .text "007" :=
  parts_hold.exists fun _ => parts_made

theorem offset_of_filter (text : String) :
    (QueryOptions.ofParams [("$filter", text)]).offset = .ok 0 := by
  have top : (QueryOptions.ofParams [("$filter", text)]).top = 50 := rfl
  have skip : (QueryOptions.ofParams [("$filter", text)]).skip = 0 := rfl
  rw [QueryOptions.offset, QueryOptions.page, top, skip]
  rfl

end EntityEngine
