import EntityEngine.Entity.Form
import EntityEngine.Http.Address
import EntityEngine.Http.MediaType
import EntityEngine.Query.Options

/-!
Requests, and what they ask for. The path decides the resource and the method what is done with it;
then the parts of the path are read, then the query, then the body, and the first that cannot be
read decides the refusal.
-/

namespace EntityEngine.Http

open Json Number Text

structure Request where
  method : String
  address : Address
  contentType : Option String
  /-- Who asks, as a header says. -/
  actor : Option String
  body : String
  deriving Repr, DecidableEq

/-- Why a request asks for nothing that the engine can do. -/
inductive Refusal where
  | unknownPath
  | methodNotAllowed
  | badPath
  | badQuery
  | mediaType
  /-- The body is no JSON. -/
  | malformedBody
  /-- The body is JSON of another form. -/
  | otherBody
  deriving Repr, DecidableEq

namespace Refusal

def status : Refusal → Nat
  | unknownPath => 404
  | methodNotAllowed => 405
  | badPath | badQuery | malformedBody => 400
  | mediaType => 415
  | otherBody => 422

def message : Refusal → String
  | unknownPath | methodNotAllowed => ""
  | badPath => "cannot read a part of the path"
  | badQuery => "cannot read the query"
  | mediaType => "the body must be sent as application/json"
  | malformedBody => "the body is not JSON"
  | otherBody => "the body has another form"

end Refusal

/-- What is asked of the engine. -/
inductive Demand where
  | entities (appId : Int)
  | createEntity (draft : EntityDraft)
  | entity (id : Int)
  | deleteEntity (id : Int) (dropTable : Bool)
  | replaceFields (id : Int) (fields : List FieldDraft)
  | materialize (id : Int)
  | entityByCode (appId : Int) (code : String)
  | entityByName (appId : Int) (name : String)
  | listRecords (appId : Int) (code : String) (page size : Nat)
  | createRecord (appId : Int) (code : String) (values : ValueMap)
  | query (appId : Int) (code : String) (options : QueryOptions)
  | record (id : Int)
  | updateRecord (id : Int) (values : ValueMap)
  | deleteRecord (id : Int)
  | recordByKey (entityId : Int) (key : String)
  | updateRecordByKey (entityId : Int) (key : String) (values : ValueMap)
  | deleteRecordByKey (entityId : Int) (key : String)
  deriving Repr

/-- What a path names, with the parts that are still to be read. -/
inductive Resource where
  | entities
  | entity (id : String)
  | fieldsOf (id : String)
  | tableOf (id : String)
  | entityByCode (appId code : String)
  | entityByName (appId name : String)
  | records (appId code : String)
  | queries (appId code : String)
  | record (id : String)
  | recordByKey (entityId key : String)
  deriving Repr, DecidableEq

namespace Resource

/-- The resource that the parts of a path name, none of the parts to be read being empty. -/
def ofSegments? : List String → Option Resource
  | ["entities"] => some entities
  | ["entities", id] => if id.isEmpty then none else some (entity id)
  | ["entities", id, "fields"] => if id.isEmpty then none else some (fieldsOf id)
  | ["entities", id, "materialize"] => if id.isEmpty then none else some (tableOf id)
  | ["entities", id, "records", key] =>
    if id.isEmpty || key.isEmpty then none else some (recordByKey id key)
  | ["apps", app, "entities", "code", code] =>
    if app.isEmpty || code.isEmpty then none else some (entityByCode app code)
  | ["apps", app, "entities", "name", name] =>
    if app.isEmpty || name.isEmpty then none else some (entityByName app name)
  | ["apps", app, "data", code] =>
    if app.isEmpty || code.isEmpty then none else some (records app code)
  | ["apps", app, "odata", code] =>
    if app.isEmpty || code.isEmpty then none else some (queries app code)
  | ["records", id] => if id.isEmpty then none else some (record id)
  | _ => none

end Resource

/-- What is done with a resource. -/
inductive Verb where
  | get
  | post
  | put
  | delete
  deriving Repr, DecidableEq

/-- The verb of a method. A request for the head of an answer is served like one for all of it. -/
def Verb.ofMethod? : String → Option Verb
  | "GET" | "HEAD" => some .get
  | "POST" => some .post
  | "PUT" => some .put
  | "DELETE" => some .delete
  | _ => none

/-- A part of a path as an integer. -/
def pathInteger (segment : String) : Except Refusal Int :=
  match (pathText? segment).bind int64? with
  | some n => .ok n
  | none => .error .badPath

def pathString (segment : String) : Except Refusal String :=
  match pathText? segment with
  | some s => .ok s
  | none => .error .badPath

/-- The value of a name in a query, which may not give it twice. -/
def queryValue (pairs : List (String × String)) (name : String) :
    Except Refusal (Option String) :=
  match pairs.filter fun p => p.1 = name with
  | [] => .ok none
  | [p] => .ok (some p.2)
  | _ => .error .badQuery

/-- The value of a name in a query, read as `parse?` says; `none` if the name is not given. -/
def readQuery (parse? : String → Option α) (pairs : List (String × String)) (name : String) :
    Except Refusal (Option α) := do
  match ← queryValue pairs name with
  | none => return none
  | some s =>
    match parse? s with
    | some v => return some v
    | none => throw .badQuery

def flag? : String → Option Bool
  | "true" => some true
  | "false" => some false
  | _ => none

namespace Request

/-- The body of a request, read against a form. -/
def json (r : Request) (shape : Shape) : Except Refusal Json :=
  if !r.contentType.any isJsonType then .error .mediaType
  else
    match shape.readText r.body with
    | .ok v => .ok v
    | .error .malformed => .error .malformedBody
    | .error .mismatch => .error .otherBody

/-- The body of a request as the values of a record. -/
def values (r : Request) : Except Refusal ValueMap := do
  match ← r.json .map with
  | .object es => return es
  | _ => throw .otherBody

/-- The form of a body with a list of fields. -/
def fieldsShape : Shape := .record [("fields", .required, .list FieldDraft.shape)]

/-- Who asks; `system` if no header says so in visible ASCII characters. -/
def actorName (r : Request) : String :=
  let isVisible (c : Char) : Bool := c = '\t' || (32 ≤ c.toNat && c.toNat < 127)
  match r.actor with
  | some s => if s.toList.all isVisible && !isBlankText s then trim s else "system"
  | none => "system"

/-- What a verb asks of a resource. -/
def demandOf (r : Request) : Resource → Verb → Except Refusal Demand
  | .entities, .get => do
    match ← readQuery int64? r.address.pairs "app_id" with
    | some appId => return .entities appId
    | none => throw .badQuery
  | .entities, .post => return .createEntity (.ofJson (← r.json EntityDraft.shape))
  | .entity id, .get => return .entity (← pathInteger id)
  | .entity id, .delete => do
    let id ← pathInteger id
    let dropTable ← readQuery flag? r.address.pairs "drop_table"
    return .deleteEntity id (dropTable.getD false)
  | .fieldsOf id, .put => do
    let id ← pathInteger id
    let v ← r.json fieldsShape
    return .replaceFields id ((v.getList "fields").map FieldDraft.ofJson)
  | .tableOf id, .post => return .materialize (← pathInteger id)
  | .entityByCode appId code, .get =>
    return .entityByCode (← pathInteger appId) (← pathString code)
  | .entityByName appId name, .get =>
    return .entityByName (← pathInteger appId) (← pathString name)
  | .records appId code, .get => do
    let appId ← pathInteger appId
    let code ← pathString code
    let page ← readQuery nat32? r.address.pairs "page"
    let size ← readQuery nat32? r.address.pairs "page_size"
    return .listRecords appId code (page.getD 1) (size.getD QueryOptions.defaultTop)
  | .records appId code, .post => do
    let appId ← pathInteger appId
    let code ← pathString code
    return .createRecord appId code (← r.values)
  | .queries appId code, .get => do
    let appId ← pathInteger appId
    let code ← pathString code
    return .query appId code (.ofParams (lastValues r.address.pairs))
  | .record id, .get => return .record (← pathInteger id)
  | .record id, .put => do
    let id ← pathInteger id
    return .updateRecord id (← r.values)
  | .record id, .delete => return .deleteRecord (← pathInteger id)
  | .recordByKey id key, .get => return .recordByKey (← pathInteger id) (← pathString key)
  | .recordByKey id key, .put => do
    let id ← pathInteger id
    let key ← pathString key
    return .updateRecordByKey id key (← r.values)
  | .recordByKey id key, .delete =>
    return .deleteRecordByKey (← pathInteger id) (← pathString key)
  | _, _ => throw .methodNotAllowed

/-- What a request asks for. -/
def demand (r : Request) : Except Refusal Demand :=
  match r.address.segments?.bind Resource.ofSegments? with
  | none => .error .unknownPath
  | some resource =>
    match Verb.ofMethod? r.method with
    | none => .error .methodNotAllowed
    | some verb => r.demandOf resource verb

end Request

end EntityEngine.Http
