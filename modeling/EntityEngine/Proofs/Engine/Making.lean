import EntityEngine.Proofs.Engine.Run
import EntityEngine.Proofs.Sql.Characters

/-! The engine once an entity is declared and its table made, if the statement of the table stands
alone. The statement is read from its characters. -/

namespace EntityEngine

open Sql

namespace Store.Database

variable {db db' : Database}

/-- The database with the table of an entity and its indexes, if its statement is sound and nothing
has its name. -/
def createTable? (db : Database) (e : Entity) : Option Database :=
  match e.tableText.spec? with
  | some spec =>
    if (tableDefect? e.table).isNone && !db.hasTable e.table && !db.hasIndex e.table &&
        spec.fault?.isNone then
      (e.indexTexts.foldlM addIndex
        { db with tables := db.tables ++ [tableOf e.tableText spec] }).toOption
    else none
  | none => none

theorem createTable_of_createTable? {e : Entity} (h : db.createTable? e = some db') :
    db.createTable e = .ok db' := by
  unfold createTable? at h
  split at h
  · rename_i spec found
    obtain ⟨declared, alone⟩ := TableText.spec_of_spec? found
    split at h
    · rename_i sound
      simp only [Bool.and_eq_true, Option.isNone_iff_eq_none, Bool.not_eq_true'] at sound
      obtain ⟨⟨⟨free, absent⟩, unindexed⟩, faultless⟩ := sound
      have added : db.addTable e.tableText =
          .ok { db with tables := db.tables ++ [tableOf e.tableText spec] } := by
        have absent : db.hasTable e.tableText.table = false := absent
        have unindexed : db.hasIndex e.tableText.table = false := unindexed
        simp only [addTable, absent, unindexed, declared, Bool.false_eq_true, if_false]
        simp only [bind, Except.bind, faultless]
        rfl
      unfold createTable addEntityTable
      rw [free, added, alone]
      exact congrArg (Except.mapError _) (toOption_some h)
    · cases h
  · cases h

end Store.Database

namespace Engine

variable {g g' : Engine}

def makeTable? (g : Engine) (e : Entity) : Option Engine :=
  (g.database.createTable? e).bind fun made =>
    (made.setTableCreated e.id true).toOption.map fun database =>
      ({ g with database } : Engine).register { e with tableCreated := true }

theorem makeTable_of_makeTable? {e : Entity} (h : g.makeTable? e = some g') :
    (g.makeTable e).2 = g' := by
  obtain ⟨made, created, h⟩ := Option.bind_eq_some_iff.mp h
  obtain ⟨database, marked, rfl⟩ := Option.map_eq_some_iff.mp h
  unfold makeTable
  rw [Store.Database.createTable_of_createTable? created]
  simp only [toOption_some marked]
  rfl

/-- The engine once an entity is declared that asks for its table. -/
def declare? (g : Engine) (draft : EntityDraft) (actor : String) (ambient : Ambient) :
    Option Engine :=
  match draft.validate, g.database.createEntity draft actor ambient with
  | .ok (), .ok (e, database) =>
    if e.autoCreate then (({ g with database } : Engine).register e).makeTable? e else none
  | _, _ => none

theorem createEntity_of_declare? {draft : EntityDraft} {actor : String} {ambient : Ambient}
    (h : g.declare? draft actor ambient = some g') :
    (g.createEntity draft actor ambient).2 = g' := by
  unfold declare? at h
  split at h
  · rename_i e database valid defined
    split at h
    · rename_i asks
      unfold createEntity
      simp only [valid, defined, during, Except.mapError, asks, if_true]
      exact makeTable_of_makeTable? h
    · cases h
  · cases h

end Engine

/-- What holds of the engine that is made holds of the engine. -/
theorem Operation.run_of_any {g : Engine} {draft : EntityDraft} {actor : String}
    {ambient : Ambient} (P : Engine → Prop) [DecidablePred P]
    (h : (g.declare? draft actor ambient).any (fun g' => decide (P g')) = true) :
    P ((createEntity draft actor ambient).run g) := by
  obtain ⟨g', declared, holds⟩ := (Option.any_eq_true _ _).mp h
  show P (g.createEntity draft actor ambient).2
  rw [Engine.createEntity_of_declare? declared]
  exact of_decide_eq_true holds

end EntityEngine
