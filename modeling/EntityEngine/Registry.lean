import EntityEngine.Entity.Definition

/-!
The definitions at hand, by id and by application and code. The second index holds ids alone, so a
lookup by code goes through the first.
-/

namespace EntityEngine

structure Registry where
  byId : List (Int × Entity) := []
  byCode : List ((Int × String) × Int) := []
  deriving Repr, DecidableEq

namespace Registry

def empty : Registry := {}

/-- A list of pairs without those under a key. -/
def without [BEq κ] (key : κ) (entries : List (κ × α)) : List (κ × α) :=
  entries.filter fun e => !(e.1 == key)

def get? (r : Registry) (id : Int) : Option Entity := r.byId.lookup id

def getByCode? (r : Registry) (appId : Int) (code : String) : Option Entity :=
  (r.byCode.lookup (appId, code)).bind r.get?

/-- The registry without an id. The code that its definition had is dropped, whoever holds it. -/
def remove (r : Registry) (id : Int) : Registry :=
  match r.get? id with
  | none => r
  | some old =>
    { byId := without id r.byId, byCode := without (old.appId, old.code) r.byCode }

/-- The registry with a definition in place of an earlier one of its id. A deleted definition is
left out. -/
def upsert (r : Registry) (e : Entity) : Registry :=
  let r := r.remove e.id
  if e.deleted then r
  else
    { byId := (e.id, e) :: r.byId
      byCode := ((e.appId, e.code), e.id) :: without (e.appId, e.code) r.byCode }

/-- The registry of some definitions, later ones in place of earlier ones. -/
def ofList (entities : List Entity) : Registry := entities.foldl upsert empty

def size (r : Registry) : Nat := r.byId.length

end Registry

end EntityEngine
