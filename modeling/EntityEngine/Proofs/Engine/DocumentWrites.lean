import EntityEngine.Proofs.Engine.Versions

/-! What an operation comes to for the documents, if its statements hold no further ones: the store
is asked to insert one, to update one, or to remove some. -/

namespace EntityEngine

open Store

variable {g g' : Engine}

/-- The document that an answer is, if it is one. -/
def StoredRecord.document? : StoredRecord → Option Record
  | document r => some r
  | row _ => none

/-- The document that an operation stores, or gives other data, with the values that it is handed. -/
def Operation.written? : Operation → Engine → Option (Record × ValueMap)
  | createRecord appId code values actor ambient, g =>
    ((g.createRecord appId code values actor ambient).1.toOption.bind
      StoredRecord.document?).map (·, values)
  | updateRecord id values actor ambient, g =>
    (g.updateRecord id values actor ambient).1.toOption.map (·, values)
  | updateRecordByKey entityId key values actor ambient, g =>
    ((g.updateRecordByKey entityId key values actor ambient).1.toOption.bind
      StoredRecord.document?).map (·, values)
  | _, _ => none

/-- Of a live definition a document is made, or one gets other data, of values that the definition
accepts; or documents go at most. -/
inductive Engine.DocumentWrite (g g' : Engine) : Option (Record × ValueMap) → Prop
  | made {e : Entity} {values data : ValueMap} {actor : String} {ambient : Ambient} {r : Record}
      (he : e ∈ g.database.live) (prepared : prepareValues e values = .ok data)
      (inserted : g.database.insertRecord e.id e.code e.appId data actor ambient =
        .ok (r, g'.database)) : DocumentWrite g g' (some (r, values))
  | changed {e : Entity} {current r : Record} {id : Int} {values data : ValueMap} {actor : String}
      {ambient : Ambient} (he : e ∈ g.database.live) (found : g.database.record? id = some current)
      (own : current.entityId = e.id) (prepared : prepareValues e values = .ok data)
      (updated : g.database.updateRecord id data actor ambient = .ok (r, g'.database)) :
      DocumentWrite g g' (some (r, values))
  | less (subset : g'.database.documents ⊆ g.database.documents) : DocumentWrite g g' none

namespace Engine

theorem DocumentWrite.of_eq (same : g'.database.documents = g.database.documents) :
    g.DocumentWrite g' none := .less (same ▸ List.Subset.refl _)

theorem DocumentWrite.refl (g : Engine) : g.DocumentWrite g none := .of_eq rfl

/-- An operation that is handed some values writes the document that its answer gives. -/
def WritesAnswer {α : Type} (g : Engine) (values : ValueMap) (document? : α → Option Record)
    (p : Except Fault α × Engine) : Prop :=
  g.DocumentWrite p.2 ((p.1.toOption.bind document?).map (·, values))

theorem WritesAnswer.refused {α : Type} {values : ValueMap} {document? : α → Option Record}
    (f : Fault) : g.WritesAnswer values document? (.error f, g) := .refl g

/-- A change of the store that may be refused. -/
theorem commit_write {α : Type} {values : ValueMap} {document? : α → Option Record}
    {result : Except Fault (α × Database)}
    (h : ∀ v database, result = .ok (v, database) →
      g.DocumentWrite { g with database } ((document? v).map (·, values))) :
    g.WritesAnswer values document? (g.commit result) := by
  cases result with
  | error f => exact .refused f
  | ok p => exact h p.1 p.2 rfl

theorem createRecord_write (inv : g.Inv) (appId : Int) (code : String) (values : ValueMap)
    (actor : String) (ambient : Ambient) :
    g.WritesAnswer values StoredRecord.document?
      (g.createRecord appId code values actor ambient) := by
  unfold createRecord
  split
  · exact .refused _
  · rename_i e g₁ resolved
    obtain ⟨rfl, live, rfl, rfl⟩ := inv.resolve resolved
    split
    · exact .refused _
    · rename_i data prepared
      split
      · have same : (g₁.database.insertRow e data ambient).2.documents = g₁.database.documents :=
          (Database.insertRow_frame inv.tidy (inv.sound.named e live)).documents trivial
        cases inserted : g₁.database.insertRow e data ambient with
        | mk row database =>
          rw [inserted] at same
          have write : g₁.DocumentWrite { g₁ with database } none := .of_eq same
          cases row <;> exact write
      · refine commit_write fun v database h => ?_
        obtain ⟨⟨r, database'⟩, inserted, h⟩ := bind_ok (during_ok h)
        obtain ⟨rfl, rfl⟩ := Prod.mk.inj (Except.ok.inj h)
        exact .made live prepared inserted

theorem updateRecord_write (inv : g.Inv) (id : Int) (values : ValueMap) (actor : String)
    (ambient : Ambient) :
    g.WritesAnswer values some (g.updateRecord id values actor ambient) := by
  unfold updateRecord record
  cases found : g.database.record? id with
  | none => exact .refused _
  | some current =>
    simp only
    split
    · exact .refused _
    · rename_i e g₁ resolved
      obtain ⟨rfl, live, own⟩ := inv.resolveId resolved
      split
      · exact .refused _
      · rename_i prepared
        exact commit_write fun v database h => .changed live found own.symm prepared (during_ok h)

theorem updateRecordByKey_write (inv : g.Inv) (entityId : Int) (key : String) (values : ValueMap)
    (actor : String) (ambient : Ambient) :
    g.WritesAnswer values StoredRecord.document?
      (g.updateRecordByKey entityId key values actor ambient) := by
  rcases updateRecordByKey_cases inv entityId key values actor ambient with
    ⟨e, row, data, database, he, -, -, updated, eq⟩ | ⟨id, eq⟩ | ⟨f, eq⟩
  · have frame := Database.updateRow_frame inv.tidy (inv.sound.named e he) updated
    have write : g.DocumentWrite { g with database } none := .of_eq (frame.documents trivial)
    rw [eq]
    exact write
  · have write := updateRecord_write inv id values actor ambient
    rw [eq]
    unfold WritesAnswer at write ⊢
    cases answer : (g.updateRecord id values actor ambient).1 <;> rw [answer] at write <;> exact write
  · rw [eq]
    exact .refused f

theorem deleteRecord_write (g : Engine) (id : Int) :
    g.WritesAnswer [] (fun _ => none) (g.deleteRecord id) := by
  refine commit_write fun v database h => ?_
  obtain ⟨database', deleted, h⟩ := map_ok (during_ok h)
  obtain ⟨-, rfl⟩ := Prod.mk.inj h
  unfold Database.deleteRecord at deleted
  split at deleted
  · rw [← Except.ok.inj deleted]
    exact .less (List.filter_subset_self _)
  · cases deleted

theorem deleteRecordByKey_write (inv : g.Inv) (entityId : Int) (key : String) :
    g.WritesAnswer [] (fun _ => none) (g.deleteRecordByKey entityId key) := by
  unfold deleteRecordByKey
  split
  · exact .refused _
  · rename_i e g₁ resolved
    obtain ⟨rfl, live, -⟩ := inv.resolveId resolved
    refine commit_write fun v database h => ?_
    obtain ⟨database', deleted, h⟩ := map_ok h
    obtain ⟨-, rfl⟩ := Prod.mk.inj h
    split at deleted
    · have frame := Database.deleteRow_frame inv.tidy (inv.sound.named e live) (during_ok deleted)
      exact .of_eq (frame.documents trivial)
    · have removed := during_ok deleted
      simp only [Database.deleteRecordByKey] at removed
      split at removed
      · rw [← Except.ok.inj removed]
        exact .less (List.filter_subset_self _)
      · cases removed

end Engine

theorem Operation.documentWrite (inv : g.Inv) (owned : g.database.Owned) (op : Operation)
    (plain : op.IsPlain g) : g.DocumentWrite (op.run g) (op.written? g) := by
  -- Operations on definitions neither add documents nor name any.
  have move := (op.run_documents inv owned plain).1
  cases op with
  | createRecord appId code values actor ambient =>
    exact Engine.createRecord_write inv appId code values actor ambient
  | updateRecord id values actor ambient =>
    have write := Engine.updateRecord_write inv id values actor ambient
    rwa [Engine.WritesAnswer, Option.bind_fun_some] at write
  | updateRecordByKey entityId key values actor ambient =>
    exact Engine.updateRecordByKey_write inv entityId key values actor ambient
  | deleteRecord id =>
    have write := Engine.deleteRecord_write g id
    rwa [Engine.WritesAnswer, Option.bind_fun_none] at write
  | deleteRecordByKey entityId key =>
    have write := Engine.deleteRecordByKey_write inv entityId key
    rwa [Engine.WritesAnswer, Option.bind_fun_none] at write
  | _ => exact .of_eq move.eq

end EntityEngine
