import EntityEngine.Registry
import EntityEngine.Store.Definitions

/-!
The engine: a store, and a registry of the definitions in it. Every operation gives its outcome
together with the engine as it is afterwards, for a failure may leave a part of the work done.
-/

namespace EntityEngine

structure Engine where
  database : Store.Database
  registry : Registry
  /-- What comes before `/$metadata` in the context of a query's answer. -/
  baseUrl : String
  deriving Repr, DecidableEq

namespace Engine

/-- The engine of a store, as it starts: the registry holds what the store has. -/
def start (database : Store.Database) (baseUrl : String) : Engine :=
  ⟨database, .ofList database.listAll, baseUrl⟩

/-- The outcome of a change of the store. A failed change leaves the engine as it was. -/
def commit (g : Engine) : Except Fault (α × Store.Database) → Except Fault α × Engine
  | .error f => (.error f, g)
  | .ok (v, database) => (.ok v, { g with database })

/-- The engine with a definition in its registry. -/
def register (g : Engine) (e : Entity) : Engine := { g with registry := g.registry.upsert e }

/-- The definition with a code. The registry takes up one that only the store has. -/
def resolve (g : Engine) (appId : Int) (code : String) : Except Fault (Entity × Engine) :=
  match g.registry.getByCode? appId code with
  | some e => .ok (e, g)
  | none =>
    match g.database.entityByCode? appId code with
    | some e => .ok (e, g.register e)
    | none => .error (.entityNotFound (.code code appId))

/-- The definition with an id. The registry takes up one that only the store has. -/
def resolveId (g : Engine) (id : Int) : Except Fault (Entity × Engine) :=
  match g.registry.get? id with
  | some e => .ok (e, g)
  | none =>
    match g.database.entity? id with
    | some e => .ok (e, g.register e)
    | none => .error (.entityNotFound (.id id))

end Engine

end EntityEngine
