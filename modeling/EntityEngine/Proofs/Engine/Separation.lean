import EntityEngine.Proofs.Engine.Retention

/-! Definitions that an operation is not addressed to, in runs that leave the types of columns open.
All of them share three tables and one space of names. They are kept apart by ids, by codes, and by
names of tables that differ in more than the case of letters. -/

namespace EntityEngine

open Sql Store

variable {g g' g'' : Engine} {made : Makings} {e : Entity}

/-! ### The engine's own tables -/

/-- A table is one of the engine's own, with its columns and its indexes, whatever its rows are. -/
structure Store.Table.IsOwn (u : Table) (t : EngineTable) : Prop where
  bare : u.bare = (engineTable t []).bare
  indexes : ∀ x ∈ t.indexes, ∃ y ∈ u.indexes, y.name = some x.name ∧
    y.columns.map KeyColumn.name = x.columns ∧ y.isUnique = x.isUnique

namespace Store

variable {db : Database} {t : EngineTable}

theorem engineTable_isOwn (t : EngineTable) (rows : List Row) : (engineTable t rows).IsOwn t := by
  refine ⟨rfl, fun x hx => ?_⟩
  refine ⟨_, List.mem_append_right _ (List.mem_map_of_mem hx), rfl, ?_, rfl⟩
  rw [List.map_map]
  exact List.map_id _

/-- No table of an entity stands in the way of one of the engine's. -/
theorem Database.Tidy.anyTable?_engine (tidy : db.Tidy) (ht : t ∈ EngineTable.all) :
    ∃ u, db.anyTable? t.name = some u ∧ u.IsOwn t := by
  have mem : t.name ∈ engineTables := by
    rw [← engineTable_names]
    exact List.mem_map_of_mem ht
  have own : db.table? t.name = none := by
    refine List.find?_eq_none.mpr fun u hu => ?_
    rw [tidy.free u hu _ (Or.inl mem)]
    exact Bool.false_ne_true
  have other : ∀ name ∈ engineTables, Text.sameFold "sqlite_sequence" name = false ∧
      masterNames.any (Text.sameFold name) = false ∧
        passingNames.any (Text.sameFold name) = false := by
    decide
  obtain ⟨sequence, master, passing⟩ := other t.name mem
  have found : ∃ rows, db.engineTable? t.name = some (engineTable t rows) := by
    have apart : Text.sameFold EngineTable.definitions.name EngineTable.fields.name = false ∧
        Text.sameFold EngineTable.definitions.name EngineTable.documents.name = false ∧
          Text.sameFold EngineTable.fields.name EngineTable.documents.name = false := by
      decide
    simp only [EngineTable.all, List.mem_cons, List.not_mem_nil, or_false] at ht
    rcases ht with rfl | rfl | rfl
    · exact ⟨_, List.find?_cons_of_pos (Text.sameFold_refl _)⟩
    · refine ⟨_, (List.find?_cons_of_neg ?_).trans (List.find?_cons_of_pos (Text.sameFold_refl _))⟩
      exact Bool.eq_false_iff.mp apart.1
    · refine ⟨_, (List.find?_cons_of_neg ?_).trans <| (List.find?_cons_of_neg ?_).trans
        (List.find?_cons_of_pos (Text.sameFold_refl _))⟩
      · exact Bool.eq_false_iff.mp apart.2.1
      · exact Bool.eq_false_iff.mp apart.2.2
  obtain ⟨rows, found⟩ := found
  refine ⟨_, ?_, engineTable_isOwn t rows⟩
  rw [anyTable?, own, Option.orElse_none, tidy.sequences, sequence, master, passing]
  exact found

end Store

/-! ### What an operation is addressed to -/

namespace Operation

variable {op : Operation}

theorem target?_of_actsOn (inv : g.Inv) (he : e ∈ g.database.live) (act : op.ActsOn e) :
    op.target? g = some e.id := by
  cases op with
  | deleteEntity id dropTable actor ambient => exact congrArg some act.symm
  | createRecord appId code values actor ambient =>
    rw [target?, inv.sound.entityByCode?_iff.mpr ⟨he, act⟩]
    rfl
  | updateRecordByKey entityId key values actor ambient => exact congrArg some act.symm
  | deleteRecordByKey entityId key => exact congrArg some act.symm
  | _ => exact act.elim

/-- A document that is added belongs to the definition that is addressed. -/
theorem target?_of_adds (inv : g.Inv) (he : e ∈ g.database.live) {r : Record} (adds : op.Adds r)
    (owner : g.database.Owns r) (own : r.entityId = e.id) : op.target? g = some e.id := by
  cases op with
  | createRecord appId code values actor ambient =>
    obtain ⟨d, hd, id, app, code⟩ := owner
    obtain rfl := inv.sound.eq_of_id hd (Database.mem_live.mp he).1 (id.trans own)
    exact target?_of_actsOn inv he ⟨app.trans adds.1, code.trans adds.2.1⟩
  | _ => exact adds.elim

theorem target?_of_names (owned : g.database.Owned) {r : Record} (hr : r ∈ g.database.documents)
    (named : op.Names r) : op.target? g = some r.entityId := by
  have stored : g.database.record? r.id = some (readBack r) := by
    have found : g.database.document? r.id = some r :=
      find?_of_only hr (by simp) fun s hs same => owned.eq_of_id hs hr (by simpa using same)
    rw [Database.record?, found]
    rfl
  cases op with
  | updateRecord id values actor ambient =>
    obtain rfl : r.id = id := named
    rw [target?, stored]
    rfl
  | deleteRecord id =>
    obtain rfl : r.id = id := named
    rw [target?, stored]
    rfl
  | updateRecordByKey entityId key values actor ambient => exact congrArg some named.1.symm
  | deleteRecordByKey entityId key => exact congrArg some named.1.symm
  | _ => exact named.elim

/-- A table is made for a new definition, or for the one that is addressed. -/
theorem id_ne_of_makes (inv : g.Inv) (he : e ∈ g.database.live) (other : op.target? g ≠ some e.id)
    {d : Entity} {database : Database} (makes : op.makes? g = some (d, database)) :
    e.id ≠ d.id := by
  cases op with
  | createEntity draft actor ambient =>
    simp only [makes?] at makes
    split at makes
    · rename_i created
      split at makes
      · obtain ⟨rfl, -⟩ := Prod.mk.inj (Option.some.inj makes)
        exact (Database.created_of_createEntity created).id_ne (Database.mem_live.mp he).1
      · cases makes
    · cases makes
  | materialize id =>
    simp only [makes?] at makes
    split at makes
    · rename_i found
      split at makes
      · cases makes
      · obtain ⟨rfl, -⟩ := Prod.mk.inj (Option.some.inj makes)
        obtain ⟨-, rfl⟩ := inv.sound.entity?_iff.mp found
        exact fun same => other (congrArg some same.symm)
    · cases makes
  | _ => cases makes

end Operation

/-! ### What is left alone -/

/-- Nothing becomes of a definition, its fields and its records. -/
structure Engine.LeavesAlone (g g' : Engine) (e : Entity) : Prop where
  live : e ∈ g'.database.live
  documents : g'.database.documents.filter (fun r => r.entityId = e.id) =
    g.database.documents.filter fun r => r.entityId = e.id
  table : g'.database.table? e.table = g.database.table? e.table

theorem Engine.LeavesAlone.trans (h₁ : g.LeavesAlone g' e) (h₂ : g'.LeavesAlone g'' e) :
    g.LeavesAlone g'' e :=
  ⟨h₂.live, h₂.documents.trans h₁.documents, h₂.table.trans h₁.table⟩

theorem Operation.Move.leavesAlone {op : Operation} (move : op.Move g g') (inv : g.Inv)
    (simple : g.database.IsSimple) (owned : g.database.Owned) (he : e ∈ g.database.live)
    (other : op.target? g ≠ some e.id) : g.LeavesAlone g' e := by
  have acts : ∀ d ∈ g.database.live, op.ActsOn d → d.id ≠ e.id := by
    intro d hd act same
    rw [← same] at other
    exact other (target?_of_actsOn inv hd act)
  refine ⟨?_, owned.own_of_move (move.documents owned) ?_ ?_, ?_⟩
  · cases move with
    | records step =>
      rw [step.live]
      exact he
    | created _ _ c => exact c.mem_live.mpr (Or.inl he)
    | @replaced id d d' database _ r meant =>
      obtain ⟨-, rfl⟩ := inv.sound.entity?_iff.mp r.found
      rw [meant] at other
      exact (r.mem_live inv.sound).mpr (Or.inr ⟨he, fun same => other (congrArg some same.symm)⟩)
    | deleted hd act deletes =>
      exact (inv.sound.mem_live_deleted hd (deletes _).1).mpr ⟨he, (acts _ hd act).symm⟩
    | dropped hd act deletes d =>
      exact (mem_live_dropped inv hd deletes d).mpr ⟨he, (acts _ hd act).symm⟩
  · intro r adds owner own
    exact other (target?_of_adds inv he adds owner own)
  · intro r hr named own
    rw [← own] at other
    exact other (target?_of_names owned hr named)
  · exact move.table?_other inv simple fun d hd act => inv.sound.apart he hd (acts d hd act)

theorem Engine.makeTable_leavesAlone (inv : g.Inv) {d : Entity} (hd : d ∈ g.database.live)
    (derived : d.HasDerivedTypes) (he : e ∈ g.database.live) (ne : e.id ≠ d.id) :
    g.LeavesAlone (g.makeTable d).2 e := by
  rcases makeTable_cases g d with ⟨-, eq⟩ | ⟨made, created, ⟨-, eq⟩ | ⟨gone, -⟩⟩
  · rw [eq]
    exact ⟨he, rfl, rfl⟩
  · have plain := Entity.further_tableText derived
    have m := Database.made_of_createTable inv.tidy created
    obtain ⟨entities, documents, -⟩ := m.rest plain
    have live : e ∈ (made.marked d.id true).live := by
      rw [Database.live_marked_congr entities, inv.sound.mem_live_marked hd]
      exact Or.inr ⟨he, ne⟩
    rw [eq]
    exact ⟨live, congrArg _ documents, m.table?_other plain (inv.sound.apart he hd ne.symm)⟩
  · rw [createTable_entities inv derived created] at gone
    exact absurd rfl (gone d (Database.mem_live.mp hd).1)

theorem Run.leavesAlone (h : Run made g) (op : Operation) (leave : LeaveTypes op.fields)
    (he : e ∈ g.database.live) (other : op.target? g ≠ some e.id) :
    g.LeavesAlone (op.run g) e := by
  have inv := h.coherent.inv
  have simple := h.built.simple
  have owned := h.plainRun.owned
  rcases op.run_cases inv with ⟨-, move⟩ | ⟨d, g', makes, move, hd, -, eq⟩
  · exact move.leavesAlone inv simple owned he other
  · have first := move.leavesAlone inv simple owned he other
    have derived := move.derived inv leave h.coherent.derived d hd
    have second := Engine.makeTable_leavesAlone (move.inv inv) hd derived first.live
      (op.id_ne_of_makes inv he other makes)
    rw [eq]
    exact first.trans second

/-- In every run that leaves the types of columns open, an operation that is not addressed to a
definition, by its id, by its code or by the id of a document, leaves that definition as it is, with
its fields, all its documents, and its table with every row, whether the operation succeeds or
fails. The engine's own tables stand under their names as before, with their columns and their
indexes. -/
theorem others_left_alone (h : Run made g) (op : Operation) (leave : LeaveTypes op.fields) :
    (∀ e ∈ g.database.live, op.target? g ≠ some e.id → g.LeavesAlone (op.run g) e ∧
      (e.tableCreated = true → ∃ t, g.database.table? e.table = some t ∧
        (op.run g).database.table? e.table = some t)) ∧
    ∀ t ∈ EngineTable.all, ∃ u v, g.database.anyTable? t.name = some u ∧
      (op.run g).database.anyTable? t.name = some v ∧ u.IsOwn t ∧ v.IsOwn t := by
  refine ⟨fun e he other => ?_, fun t ht => ?_⟩
  · have alone := h.leavesAlone op leave he other
    refine ⟨alone, fun created => ?_⟩
    obtain ⟨-, t, -, -, there, -⟩ := h.table he created
    exact ⟨t, there, alone.table.trans there⟩
  · obtain ⟨u, before, own⟩ := h.coherent.inv.tidy.anyTable?_engine ht
    obtain ⟨v, now, own'⟩ := (h.step op leave).coherent.inv.tidy.anyTable?_engine ht
    exact ⟨u, v, before, now, own, own'⟩

/-- Goods with a row in their table, beside a note without one. -/
def goodsAndNotes : Engine := storeNote.run (declareNote.run goods)

/-- The goods stay as they are when the table of the notes is made. -/
theorem others_left_alone_goods : (∃ made, Run made goodsAndNotes) ∧
    ∃ e ∈ goodsAndNotes.database.live, e.id = 1 ∧ e.tableCreated = true ∧
      goodsAndNotes.LeavesAlone ((Operation.materialize 2).run goodsAndNotes) e := by
  have none : LeaveTypes [] := fun f hf => absurd hf List.not_mem_nil
  have declared : LeaveTypes declareNote.fields := by
    intro f hf
    rw [List.mem_singleton.mp hf]
    rfl
  obtain ⟨made, run⟩ := run_goods.2
  have run := Run.step storeNote (.step declareNote run declared) none
  have there : (goodsAndNotes.database.live.any fun e => e.id == 1 && e.tableCreated) = true := by
    decide +kernel
  obtain ⟨e, he, facts⟩ := List.any_eq_true.mp there
  obtain ⟨id, created⟩ : e.id = 1 ∧ e.tableCreated = true := by simpa using facts
  refine ⟨⟨_, run⟩, e, he, id, created,
    ((others_left_alone run (.materialize 2) none).1 e he ?_).1⟩
  rw [id]
  decide

end EntityEngine
