import EntityEngine.Engine.Definitions
import EntityEngine.Engine.Records
import EntityEngine.Http.Request

/-!
Responses of the engine to requests. What was not found and what the caller got wrong is told
apart from what failed inside.
-/

namespace EntityEngine.Http

open Number

inductive Body where
  | empty
  | text (s : String)
  | json (v : Json)
  deriving Repr, DecidableEq

structure Response where
  status : Nat
  body : Body
  deriving Repr, DecidableEq

/-- Whose fault a fault is. -/
inductive Blame where
  | notFound
  | badRequest
  | internal
  deriving Repr, DecidableEq

namespace Blame

def ofFault : Fault → Blame
  | .entityNotFound _ | .recordNotFound _ => notFound
  | .invalid _ | .duplicateCode _ _ => badRequest
  | .schema _ _ | .persistence _ _ | .serialization | .overflow _ => internal

def status : Blame → Nat
  | notFound => 404
  | badRequest => 400
  | internal => 500

/-- The message of a fault under what it is blamed on. -/
def describe (f : Fault) : String :=
  match ofFault f with
  | notFound => "not found: " ++ f.message
  | badRequest => "bad request: " ++ f.message
  | internal => f.message

end Blame

namespace Response

def ofJson (v : Json) : Response := ⟨200, .json v⟩

def created (v : Json) : Response := ⟨201, .json v⟩

def noContent : Response := ⟨204, .empty⟩

/-- The response to a request that is refused. -/
def ofRefusal (r : Refusal) : Response :=
  ⟨r.status, if r.message.isEmpty then .empty else .text r.message⟩

/-- The response that tells a fault. After an overflow there is none. -/
def ofFault : Fault → Except Overflow Response
  | .overflow cause => .error cause
  | f => .ok ⟨(Blame.ofFault f).status, .json (.object [("error", .text f.message)])⟩

/-- The response to an operation with an outcome, told as `encode` says. -/
def ofOutcome (encode : α → Response) : Except Fault α → Except Overflow Response
  | .ok v => .ok (encode v)
  | .error f => ofFault f

end Response

/-- The response to a request, without its body where only the head is asked for. -/
def headOnly (request : Request) (r : Response) : Response :=
  if request.method = "HEAD" then { r with body := .empty } else r

/-- The response to an operation, with the engine after it. -/
def responding (encode : α → Response) (r : Except Fault α × Engine) :
    Except Overflow Response × Engine :=
  (Response.ofOutcome encode r.1, r.2)

def showEntity (e : Entity) : Response := .ofJson e.toJson

def showRecord (r : StoredRecord) : Response := .ofJson r.toJson

/-- Does what is asked for. -/
def Demand.carryOut (actor : String) (ambient : Ambient) (g : Engine) :
    Demand → Except Overflow Response × Engine
  | .entities appId => (.ok (.ofJson (.array ((g.entities appId).map Entity.toJson))), g)
  | .createEntity draft =>
    responding (fun e => .created e.toJson) (g.createEntity draft actor ambient)
  | .entity id => responding showEntity (g.entity id, g)
  | .deleteEntity id dropTable =>
    responding (fun _ => .noContent) (g.deleteEntity id dropTable actor ambient)
  | .replaceFields id fields => responding showEntity (g.replaceFields id fields actor ambient)
  | .materialize id => responding showEntity (g.materialize id)
  | .entityByCode appId code => responding showEntity (g.entityByCode appId code, g)
  | .entityByName appId name => responding showEntity (g.entityByName appId name, g)
  | .listRecords appId code page size =>
    responding (fun rs => .ofJson (.array (rs.map StoredRecord.toJson)))
      (g.listRecords appId code page size)
  | .createRecord appId code values =>
    responding (fun r => .created r.toJson) (g.createRecord appId code values actor ambient)
  | .query appId code options =>
    responding (fun r => .ofJson r.toJson) (g.query appId code options)
  | .record id => responding (fun r => .ofJson r.toJson) (g.record id, g)
  | .updateRecord id values =>
    responding (fun r => .ofJson r.toJson) (g.updateRecord id values actor ambient)
  | .deleteRecord id => responding (fun _ => .noContent) (g.deleteRecord id)
  | .recordByKey entityId key => responding showRecord (g.recordByKey entityId key)
  | .updateRecordByKey entityId key values =>
    responding showRecord (g.updateRecordByKey entityId key values actor ambient)
  | .deleteRecordByKey entityId key =>
    responding (fun _ => .noContent) (g.deleteRecordByKey entityId key)

/-- Answers a request. -/
def respond (g : Engine) (r : Request) (ambient : Ambient) : Except Overflow Response × Engine :=
  match r.demand with
  | .error refusal => (.ok (headOnly r (.ofRefusal refusal)), g)
  | .ok demand =>
    let (response, g) := demand.carryOut r.actorName ambient g
    (response.map (headOnly r), g)

end EntityEngine.Http
