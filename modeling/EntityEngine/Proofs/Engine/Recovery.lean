import EntityEngine.Proofs.Engine.Coherence
import EntityEngine.Proofs.Engine.Making

/-! Tables that cannot be made. The database may hold tables of others beside those of the engine,
and an operation may be cut short between two of its commits; still no definition is marked unless
its table is there, and a definition whose table could not be made stays, to be asked for again. -/

namespace EntityEngine

open Store

/-- What an operation leaves in the database when it ends between two of its commits. -/
inductive Operation.Cut (g : Engine) : Operation → Database → Prop
  | stored {draft : EntityDraft} {actor : String} {ambient : Ambient} {e : Entity}
      {database : Database} (valid : draft.validate = .ok ())
      (stored : g.database.createEntity draft actor ambient = .ok (e, database)) :
      Cut g (createEntity draft actor ambient) database
  | made {op : Operation} {e : Entity} {database made : Database}
      (makes : op.makes? g = some (e, database)) (created : database.createTable e = .ok made) :
      Cut g op made
  | deleted {id : Int} {dropTable : Bool} {actor : String} {ambient : Ambient} {e : Entity}
      {database : Database} (deleted : g.database.softDelete id actor ambient = .ok (e, database)) :
      Cut g (deleteEntity id dropTable actor ambient) database
  | dropped {id : Int} {actor : String} {ambient : Ambient} {e : Entity}
      {database dropped : Database}
      (deleted : g.database.softDelete id actor ambient = .ok (e, database))
      (gone : database.dropTable e.table = .ok dropped) :
      Cut g (deleteEntity id true actor ambient) dropped

/-- Runs on a database that others use as well. It holds no definition at first, but any tables;
operations may be cut short, and then the engine starts anew on what was committed; and others may
make, change and drop tables, only not those of marked definitions. -/
inductive SharedRun : Engine → Prop
  | start {database : Database} (blank : database.entities = []) (tidy : database.Tidy)
      (baseUrl : String) : SharedRun (Engine.start database baseUrl)
  | step {g : Engine} (op : Operation) :
      SharedRun g → LeaveTypes op.fields → SharedRun (op.run g)
  | cut {g : Engine} {op : Operation} {database : Database} (baseUrl : String) :
      SharedRun g → LeaveTypes op.fields → op.Cut g database →
        SharedRun (Engine.start database baseUrl)
  | reload {g : Engine} (baseUrl : String) :
      SharedRun g → SharedRun (Engine.start g.database baseUrl)
  | others {g : Engine} {tables : List Table} :
      SharedRun g → ({ g.database with tables } : Database).Tidy →
        (∀ e ∈ g.database.live, e.tableCreated = true → ∀ t,
          g.database.table? e.table = some t → t ∈ tables) →
        SharedRun { g with database := { g.database with tables } }

namespace Engine

/-! ### Marks -/

/-- Every mark is honest: a live definition that has one has a table of its name. -/
structure Honest (g : Engine) : Prop where
  inv : g.Inv
  derived : ∀ e ∈ g.database.live, e.HasDerivedTypes
  tables : ∀ e ∈ g.database.live, e.tableCreated = true → ∃ t ∈ g.database.tables, t.name = e.table

variable {g g' : Engine}

theorem name_of_form {tables : List Table} {t : Table} (ht : t ∈ tables.map Table.form) :
    ∃ u ∈ tables, u.name = t.name := by
  obtain ⟨u, hu, rfl⟩ := List.mem_map.mp ht
  exact ⟨u, hu, rfl⟩

namespace Honest

/-- Marks stay honest where each belongs to a table that was there, or to one just made. -/
theorem carry (h : Honest g) (inv : g'.Inv) (derived : ∀ e ∈ g'.database.live, e.HasDerivedTypes)
    (tables : ∀ e ∈ g'.database.live, e.tableCreated = true → Carries g g' e ∨ Fresh g' e) :
    Honest g' := by
  refine ⟨inv, derived, fun e he created => ?_⟩
  rcases tables e he created with ⟨d, hd, had, precedes, kept⟩ | ⟨t, ht, own⟩
  · obtain ⟨t, ht, name⟩ := h.tables d hd had
    obtain ⟨u, hu, same⟩ := name_of_form (kept t.form (List.mem_map_of_mem ht) name)
    exact ⟨u, hu, same.trans (name.trans precedes.table)⟩
  · obtain ⟨u, hu, same⟩ := name_of_form ht
    exact ⟨u, hu, same.trans own.name⟩

theorem move (h : Honest g) {op : Operation} (leave : LeaveTypes op.fields)
    (move : op.Move g g') : Honest g' :=
  h.carry (move.inv h.inv) (move.derived h.inv leave h.derived) fun e he created =>
    Or.inl (move.carries h.inv e he created)

theorem makeTable (h : Honest g) {e : Entity} (he : e ∈ g.database.live) :
    Honest (g.makeTable e).2 := by
  have tables := makeTable_tables h.inv he h.derived
  refine h.carry (makeTable_inv h.inv he fun made created => ?_) (fun d hd => (tables d hd).1) ?_
  · exact createTable_entities h.inv (h.derived e he) created
  · intro d hd created
    exact ((tables d hd).2 created).imp_right And.right

theorem reload (h : Honest g) (baseUrl : String) : Honest (Engine.start g.database baseUrl) :=
  ⟨start_inv h.inv.sound h.inv.tidy baseUrl, h.derived, h.tables⟩

theorem run (h : Honest g) (op : Operation) (leave : LeaveTypes op.fields) :
    Honest (op.run g) := by
  rcases op.run_cases h.inv with ⟨-, now⟩ | ⟨e, g', -, now, he, -, eq⟩
  · exact h.move leave now
  · rw [eq]
    exact (h.move leave now).makeTable he

/-- Where only tables change, and those of marked definitions stay. -/
theorem withTables (h : Honest g) {database : Database}
    (same : database.entities = g.database.entities) (tidy : database.Tidy)
    (kept : ∀ e ∈ g.database.live, e.tableCreated = true → ∀ t ∈ g.database.tables,
      t.name = e.table → t.form ∈ database.tables.map Table.form) :
    Honest { g with database } := by
  have live : database.live = g.database.live := Database.live_of_entities same
  refine ⟨⟨h.inv.sound.of_entities same, tidy, ?_⟩, ?_, ?_⟩
  · show g.registry.Holds database.live
    rw [live]
    exact h.inv.holds
  · intro e he
    rw [live] at he
    exact h.derived e he
  · intro e he had
    rw [live] at he
    obtain ⟨t, ht, name⟩ := h.tables e he had
    obtain ⟨u, hu, same⟩ := name_of_form (kept e he had t ht name)
    exact ⟨u, hu, same.trans name⟩

/-- A table that is there before its definition is marked. -/
theorem unmarked (h : Honest g) {e : Entity} (he : e ∈ g.database.live) {made : Database}
    (created : g.database.createTable e = .ok made) : Honest { g with database := made } := by
  have m := Database.made_of_createTable h.inv.tidy created
  obtain ⟨spec, -, forms⟩ := m.forms
  refine h.withTables (createTable_entities h.inv (h.derived e he) created) m.tidy ?_
  intro d _ _ t ht _
  rw [forms]
  exact List.mem_append_left _ (List.mem_map_of_mem ht)

/-- A table that is gone before the mark of its deleted definition is. -/
theorem dropped (h : Honest g) {name : String} {dropped : Database}
    (other : ∀ e ∈ g.database.live, Text.sameFold e.table name = false)
    (d : g.database.Dropped name dropped) : Honest { g with database := dropped } := by
  refine h.withTables d.entities d.tidy ?_
  intro e he _ t ht named
  rw [d.forms, List.mem_filter]
  refine ⟨List.mem_map_of_mem ht, ?_⟩
  show (!Text.sameFold t.name name) = true
  rw [named, other e he]
  rfl

theorem deleted (h : Honest g) {id : Int} {actor : String} {ambient : Ambient} {e : Entity}
    {database : Database} (deleted : g.database.softDelete id actor ambient = .ok (e, database)) :
    Honest ⟨database, g.registry.remove e.id, g.baseUrl⟩ ∧
      ∀ d ∈ database.live, Text.sameFold d.table e.table = false := by
  obtain ⟨found, change, deletes, rfl⟩ := Database.softDelete_ok deleted
  obtain ⟨he, same⟩ := h.inv.sound.entity?_iff.mp found
  have move : (Operation.deleteEntity id false actor ambient).Move g
      ⟨g.database.changeEntity e.id change, g.registry.remove e.id, g.baseUrl⟩ :=
    .deleted he same deletes
  subst same
  refine ⟨h.move (fun _ none => by cases none) move, fun d hd => ?_⟩
  obtain ⟨hd, ne⟩ := (h.inv.sound.mem_live_deleted he (deletes e).1).mp hd
  -- No two live definitions have one table.
  rw [Bool.eq_false_iff]
  intro alike
  exact ne (congrArg Entity.id (h.inv.sound.tables d hd e he alike))

/-- Marks are honest after each commit of an operation. -/
theorem cut (h : Honest g) {op : Operation} (leave : LeaveTypes op.fields) {database : Database}
    (cut : op.Cut g database) (baseUrl : String) : Honest (Engine.start database baseUrl) := by
  cases cut with
  | stored valid stored =>
    have c := Database.created_of_createEntity stored
    exact (h.move leave (.created valid rfl c)).reload baseUrl
  | made makes created =>
    rcases op.run_cases h.inv with ⟨none, -⟩ | ⟨e, g', known, now, he, -⟩
    · rw [makes] at none
      cases none
    · rw [makes] at known
      obtain ⟨rfl, rfl⟩ := Prod.mk.inj (Option.some.inj known)
      exact ((h.move leave now).unmarked he created).reload baseUrl
  | deleted deleted => exact (h.deleted deleted).1.reload baseUrl
  | dropped deleted gone =>
    obtain ⟨now, other⟩ := h.deleted deleted
    have d := Database.dropped_of_dropTable now.inv.tidy gone
    exact (now.dropped other d).reload baseUrl

end Honest

end Engine

variable {g : Engine}

theorem SharedRun.honest (h : SharedRun g) : g.Honest := by
  induction h with
  | @start database blank tidy baseUrl =>
    have sound : database.Sound := Database.empty_sound.of_entities blank
    have none : database.live = [] := by
      rw [Database.live, blank]
      rfl
    refine ⟨Engine.start_inv sound tidy baseUrl, ?_, ?_⟩
    · intro e (he : e ∈ database.live)
      rw [none] at he
      cases he
    · intro e (he : e ∈ database.live)
      rw [none] at he
      cases he
  | step op _ leave ih => exact ih.run op leave
  | cut baseUrl _ leave cut ih => exact ih.cut leave cut baseUrl
  | reload baseUrl _ ih => exact ih.reload baseUrl
  | others _ tidy kept ih =>
    refine ih.withTables rfl tidy fun e he had t ht name => ?_
    have found := ih.inv.tidy.table?_of_mem ht
    rw [name] at found
    exact List.mem_map_of_mem (kept e he had t found)

/-! ### Tables that could not be made -/

namespace Engine

/-- Store and registry have a definition, under its id and under its code. -/
structure Knows (g : Engine) (e : Entity) : Prop where
  stored : g.entity e.id = .ok e
  storedCode : g.entityByCode e.appId e.code = .ok e
  held : g.registry.get? e.id = some e
  heldCode : g.registry.getByCode? e.appId e.code = some e

variable {g' : Engine} {e : Entity} {table : String} {cause : StoreFault}

theorem Inv.knows (inv : g.Inv) (he : e ∈ g.database.live) : g.Knows e := by
  have found := inv.sound.entity?_iff.mpr ⟨he, rfl⟩
  have coded := inv.sound.entityByCode?_iff.mpr ⟨he, rfl, rfl⟩
  refine ⟨?_, ?_, ?_, ?_⟩
  · rw [entity, found]
  · rw [entityByCode, coded]
  · rw [inv.get?_eq, found]
  · rw [inv.getByCode?_eq, coded]

theorem Knows.live (inv : g.Inv) (h : g.Knows e) : e ∈ g.database.live :=
  (inv.holds.get?_iff.mp h.held).1

theorem Knows.withTables (known : g.Knows e) (tables : List Table) :
    ({ g with database := { g.database with tables } } : Engine).Knows e :=
  ⟨known.stored, known.storedCode, known.held, known.heldCode⟩

/-- Storing a definition touches no table. -/
theorem createEntity_not_schema {db : Database} {draft : EntityDraft} {actor : String}
    {ambient : Ambient} : db.createEntity draft actor ambient ≠ .error (.schema table cause) := by
  have plain {α : Type} (x : Except Sql.Fault α) :
      x.mapError Fault.database ≠ .error (.schema table cause) := by
    cases x <;> exact nofun
  intro h
  rw [Database.createEntity] at h
  split at h
  · cases h
  · split at h
    · cases h
    · rcases bind_error h with h | ⟨id, -, h⟩
      · exact plain _ h
      · rcases bind_error h with h | ⟨first, -, h⟩
        · unfold Database.nextFieldId at h
          split at h
          · cases h
          · exact plain _ h
        · cases h

/-- A table that is not made leaves everything as it is. -/
theorem makeTable_schema (h : g.makeTable e = (.error (.schema table cause), g')) : g' = g := by
  unfold makeTable at h
  cases created : g.database.createTable e with
  | error f =>
    rw [created] at h
    exact (Prod.mk.inj h).2.symm
  | ok made =>
    simp only [created] at h
    split at h
    · rename_i failed
      rw [Except.error.inj (Prod.mk.inj h).1] at failed
      have missing := during_error failed fun _ _ => nofun
      unfold Database.setTableCreated at missing
      split at missing <;> cases missing
    · cases h

/-- A definition stays when its table cannot be made. -/
theorem createEntity_schema {draft : EntityDraft} {actor : String} {ambient : Ambient}
    (h : g.createEntity draft actor ambient = (.error (.schema table cause), g')) :
    ∃ e database, draft.validate = .ok () ∧ g.database.Created draft ambient e database ∧
      g' = ({ g with database } : Engine).register e := by
  unfold createEntity at h
  split at h
  · rename_i f invalid
    have invalid := invalid.trans (congrArg Except.error (Except.error.inj (Prod.mk.inj h).1))
    cases defect : draft.defect? with
    | none =>
      rw [EntityDraft.validate, defect] at invalid
      cases invalid
    | some d =>
      rw [EntityDraft.validate, defect] at invalid
      cases invalid
  · rename_i valid
    split at h
    · rename_i f failed
      rw [Except.error.inj (Prod.mk.inj h).1] at failed
      exact absurd (during_error failed fun _ _ => nofun) createEntity_not_schema
    · rename_i e database stored
      refine ⟨e, database, valid, Database.created_of_createEntity (during_ok stored), ?_⟩
      simp only at h
      split at h
      · exact makeTable_schema h
      · cases h

theorem materialize_schema {id : Int}
    (h : g.materialize id = (.error (.schema table cause), g')) :
    g' = g ∧ ∃ e, g.database.entity? id = some e ∧ e.tableCreated = false := by
  unfold materialize entity at h
  cases found : g.database.entity? id with
  | none =>
    rw [found] at h
    cases h
  | some e =>
    simp only [found] at h
    cases made : e.tableCreated with
    | true =>
      rw [made] at h
      cases h
    | false =>
      rw [made] at h
      exact ⟨makeTable_schema h, e, rfl, made⟩

/-- The table of a definition that has none is made once its statements are accepted. -/
theorem Honest.materialize_accepted (h : Honest g) (he : e ∈ g.database.live)
    (unmade : e.tableCreated = false) {made : Database}
    (accepted : g.database.createTable e = .ok made) :
    ∃ g', g.materialize e.id = (.ok { e with tableCreated := true }, g') ∧
      g'.Knows { e with tableCreated := true } := by
  have found := h.inv.sound.entity?_iff.mpr ⟨he, rfl⟩
  have same := createTable_entities h.inv (h.derived e he) accepted
  have stored : e ∈ made.entities := by
    rw [same]
    exact (Database.mem_live.mp he).1
  have marked := Database.setTableCreated_of_mem stored true
  have outcome : g.materialize e.id = (.ok { e with tableCreated := true },
      ({ g with database := made.marked e.id true } : Engine).register
        { e with tableCreated := true }) := by
    unfold materialize entity Engine.makeTable
    simp only [found, unmade, accepted, during, marked]
    rfl
  have now : Honest (g.materialize e.id).2 := h.run (.materialize e.id) fun _ none => by cases none
  rw [outcome] at now
  refine ⟨_, outcome, now.inv.knows ?_⟩
  show _ ∈ (made.marked e.id true).live
  rw [Database.live_marked_congr same e.id true, h.inv.sound.mem_live_marked he]
  exact Or.inl rfl

theorem Inv.materialize_made (inv : g.Inv) (he : e ∈ g.database.live)
    (made : e.tableCreated = true) : g.materialize e.id = (.ok e, g) := by
  have found := inv.sound.entity?_iff.mpr ⟨he, rfl⟩
  unfold materialize entity
  simp only [found, made, if_true]

end Engine

/-- A database with a table that someone else keeps under the name of the goods. -/
def occupied : Database := { tables := [{ name := "GOODS", columns := [{ name := "no 1", affinity := .blob }] }] }

def goodsDraft : EntityDraft where
  appId := 1
  name := "Goods"
  table := "goods"
  code := some "goods"
  kind := .static
  fields := [{ name := "sku", type := .integer, isKey := true }]
  autoCreate := true

/-- The goods, declared while their table is in the way. -/
def blockedGoods : Engine :=
  ((Engine.start occupied "").createEntity goodsDraft "a" ⟨⟨0, 0⟩, "r", "c"⟩).2

/-- The goods, once the other table is gone. -/
def unblockedGoods : Engine :=
  { blockedGoods with database := { blockedGoods.database with tables := [] } }

theorem shared_occupied : SharedRun (Engine.start occupied "") := by
  have free : tableDefect? "GOODS" = none := by decide
  refine .start rfl ⟨rfl, ?_, List.pairwise_singleton _ _⟩ ""
  intro t ht
  rw [List.mem_singleton.mp ht]
  exact IsFree.unkept free

theorem shared_blockedGoods : SharedRun blockedGoods := by
  have leaves : LeaveTypes goodsDraft.fields := by
    intro f hf
    rw [List.mem_singleton.mp hf]
    rfl
  exact .step (.createEntity goodsDraft "a" ⟨⟨0, 0⟩, "r", "c"⟩) shared_occupied leaves

theorem blocked_schema : ∃ table cause,
    (Engine.start occupied "").createEntity goodsDraft "a" ⟨⟨0, 0⟩, "r", "c"⟩ =
      (.error (.schema table cause), blockedGoods) := by
  have failed : (match ((Engine.start occupied "").createEntity goodsDraft "a"
      ⟨⟨0, 0⟩, "r", "c"⟩).1 with
    | .error (.schema _ _) => true
    | _ => false) = true := by decide +kernel
  cases outcome : (Engine.start occupied "").createEntity goodsDraft "a" ⟨⟨0, 0⟩, "r", "c"⟩ with
  | mk result g' =>
    rw [outcome] at failed
    have state : blockedGoods = g' := congrArg Prod.snd outcome
    split at failed
    · rename_i table cause same
      refine ⟨table, cause, ?_⟩
      rw [state]
      exact congrArg (·, g') same
    · cases failed

theorem shared_unblockedGoods : SharedRun unblockedGoods := by
  have tidy : unblockedGoods.database.Tidy :=
    ⟨shared_blockedGoods.honest.inv.tidy.sequences, fun t ht => (by cases ht), .nil⟩
  -- No definition is marked yet.
  have unmarked : (blockedGoods.database.live.all fun e => !e.tableCreated) = true := by
    decide +kernel
  refine .others (g := blockedGoods) shared_blockedGoods tidy fun e he created => ?_
  have other := List.all_eq_true.mp unmarked e he
  rw [created] at other
  cases other

end EntityEngine
