import EntityEngine.Proofs.Engine.Run

/-! The registry and the store agree: after every operation of a run they find the same definitions,
and so does a registry that is loaded anew. Only statements inside the text of a table can part
them, so an operation does so exactly when such statements change what the store finds. -/

namespace EntityEngine

open Store

/-- A registry finds what a store finds, by id and by code. -/
structure Registry.AnswersAs (r : Registry) (db : Database) : Prop where
  byId : ∀ id, r.get? id = db.entity? id
  byCode : ∀ appId code, r.getByCode? appId code = db.entityByCode? appId code

/-- The registry at hand finds what the store finds, and so does one that is loaded anew. -/
structure Engine.Agrees (g : Engine) : Prop where
  registry : g.registry.AnswersAs g.database
  load : (Registry.ofList g.database.listAll).AnswersAs g.database

/-- A store finds the definitions that another one finds, and so does a registry that is loaded from
it. -/
structure Store.Database.SameDirectory (db db' : Database) : Prop where
  byId : ∀ id, db'.entity? id = db.entity? id
  byCode : ∀ appId code, db'.entityByCode? appId code = db.entityByCode? appId code
  load : (Registry.ofList db'.listAll).AnswersAs db'

/-- The statements of an operation, should it make a table, change nothing about the definitions
that are found, but that the table is there. -/
def Operation.KeepsDirectory (op : Operation) (g : Engine) : Prop :=
  ∀ e database made, op.makes? g = some (e, database) → database.createTable e = .ok made →
    (database.marked e.id true).SameDirectory (made.marked e.id true)

namespace Engine

variable {g : Engine}

theorem answersAs_of_holds {r : Registry} {db : Database} (sound : db.Sound)
    (holds : r.Holds db.live) : r.AnswersAs db := by
  constructor
  · intro id
    refine Option.ext fun e => ?_
    rw [holds.get?_iff, sound.entity?_iff]
  · intro appId code
    refine Option.ext fun e => ?_
    rw [holds.getByCode?_iff, sound.entityByCode?_iff]

theorem Inv.agrees (inv : g.Inv) : g.Agrees :=
  ⟨answersAs_of_holds inv.sound inv.holds, answersAs_of_holds inv.sound inv.sound.load_holds⟩

/-- After a table is made, the registry agrees with the store exactly if the definitions are found
as they were before. -/
theorem makeTable_agrees_iff (inv : g.Inv) {e : Entity} (he : e ∈ g.database.live) :
    (g.makeTable e).2.Agrees ↔ ∀ made, g.database.createTable e = .ok made →
      (g.database.marked e.id true).SameDirectory (made.marked e.id true) := by
  have stored := (Database.mem_live.mp he).1
  rcases makeTable_cases g e with ⟨⟨f, failed⟩, eq⟩ | ⟨made, created, ⟨-, eq⟩ | ⟨gone, eq⟩⟩
  · rw [eq]
    refine ⟨fun _ made created => ?_, fun _ => inv.agrees⟩
    rw [failed] at created
    cases created
  · -- The registry answers as the store did, with the table marked.
    have before : (g.registry.upsert { e with tableCreated := true }).AnswersAs
        (g.database.marked e.id true) :=
      answersAs_of_holds (inv.sound.marked stored true) (upsert_marked_holds inv he)
    rw [eq]
    constructor
    · intro agrees made' created'
      obtain rfl : made = made' := Except.ok.inj (created.symm.trans created')
      refine ⟨fun id => ?_, fun appId code => ?_, agrees.load⟩
      · rw [← before.byId, ← agrees.registry.byId]
      · rw [← before.byCode, ← agrees.registry.byCode]
    · intro same
      have directory := same made created
      refine ⟨⟨fun id => ?_, fun appId code => ?_⟩, directory.load⟩
      · rw [before.byId]
        exact (directory.byId id).symm
      · rw [before.byCode]
        exact (directory.byCode appId code).symm
  · -- The definition itself is gone, so neither side holds.
    have lost : ∀ {db : Database}, (∀ d ∈ db.entities, d.id ≠ e.id) → db.entity? e.id = none := by
      intro db absent
      refine List.find?_eq_none.mpr fun d hd => ?_
      simpa using absent d (Database.mem_live.mp hd).1
    rw [eq]
    constructor
    · intro agrees
      have found := agrees.registry.byId e.id
      rw [lost gone, inv.holds.get?_iff.mpr ⟨he, rfl⟩] at found
      cases found
    · intro same
      have found := (same made created).byId e.id
      have marked : (g.database.marked e.id true).entity? e.id =
          some { e with tableCreated := true } :=
        (inv.sound.marked stored true).entity?_iff.mpr
          ⟨(inv.sound.mem_live_marked he).mpr (Or.inl rfl), rfl⟩
      rw [marked, lost] at found
      · cases found
      · intro d hd
        obtain ⟨x, hx, rfl⟩ := Database.mem_changeEntity.mp hd
        rw [if_neg (gone x hx)]
        exact gone x hx

end Engine

variable {g : Engine}

/-- An operation parts the registry from the store exactly if its statements change what the store
finds. -/
theorem Operation.run_agrees_iff (inv : g.Inv) (op : Operation) :
    (op.run g).Agrees ↔ op.KeepsDirectory g := by
  rcases op.run_cases inv with ⟨none, move⟩ | ⟨e, g', makes, move, he, -, eq⟩
  · refine ⟨fun _ e database made makes => ?_, fun _ => (move.inv inv).agrees⟩
    rw [none] at makes
    cases makes
  · rw [eq, Engine.makeTable_agrees_iff (move.inv inv) he]
    constructor
    · intro same d database made makes' created
      obtain ⟨rfl, rfl⟩ := Prod.mk.inj (Option.some.inj (makes.symm.trans makes'))
      exact same made created
    · intro same made created
      exact same e g'.database made makes created

/-- Where the text of a table holds no further statements, its definitions are left alone. -/
theorem Operation.IsPlain.leavesDefinitions (inv : g.Inv) {op : Operation} (plain : op.IsPlain g) :
    op.LeavesDefinitions g := by
  intro e database made makes created
  rcases op.run_cases inv with ⟨none, -⟩ | ⟨d, g', makes', move, -⟩
  · rw [none] at makes
    cases makes
  · obtain ⟨rfl, rfl⟩ := Prod.mk.inj (Option.some.inj (makes'.symm.trans makes))
    exact ((Database.made_of_createTable (move.inv inv).tidy created).rest
      (plain d g'.database makes)).1

/-- The declaration of one entity, whose table is not asked for. -/
def declareLedger : Operation :=
  .createEntity
    { appId := 1
      name := "Ledger"
      table := "ledger"
      code := some "ledger"
      fields := [{ name := "amount", type := .long }] }
    "a" ⟨⟨0, 0⟩, "r", "c"⟩

theorem ledger_leavesDefinitions : declareLedger.LeavesDefinitions (.start .empty "") := by
  intro e database made makes
  have none : declareLedger.makes? (.start .empty "") = none := by decide
  rw [none] at makes
  cases makes

end EntityEngine
