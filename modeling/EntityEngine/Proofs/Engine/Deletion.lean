import EntityEngine.Proofs.Engine.Documents
import EntityEngine.Proofs.Store.Sequence

/-! A document that is deleted stays away: its id was given out, ids are given out in ascending
order, and no operation lowers the largest one or stores a document that it has read. This holds of
runs whose statements hold no further ones, since such a statement may remove the largest ids. -/

namespace EntityEngine

open Store

variable {g g' : Engine} {id : Int}

/-! ### One operation -/

namespace Engine

/-- A table without further statements is made beside the largest numbers. -/
theorem makeTable_sequences (tidy : g.database.Tidy) {e : Entity}
    (plain : e.tableText.further = []) :
    (g.makeTable e).2.database.sequences = g.database.sequences := by
  rcases makeTable_cases g e with ⟨-, eq⟩ | ⟨made, created, ⟨-, eq⟩ | ⟨-, eq⟩⟩
  · rw [eq]
  · rw [eq]
    show made.sequences = g.database.sequences
    exact Database.createTable_sequences tidy plain created
  · rw [eq]
    exact Database.createTable_sequences tidy plain created

theorem createEntity_grows (inv : g.Inv) {draft : EntityDraft} {actor : String} {ambient : Ambient}
    (plain : (Operation.createEntity draft actor ambient).IsPlain g) :
    Sequence.Grows g.database.sequences
      (g.createEntity draft actor ambient).2.database.sequences := by
  unfold createEntity
  cases valid : draft.validate with
  | error f => exact .refl _
  | ok _ =>
    cases created : g.database.createEntity draft actor ambient with
    | error f => exact .refl _
    | ok p =>
      obtain ⟨e, database⟩ := p
      have grows := Database.createEntity_grows created
      have tidy : database.Tidy := by
        have c := Database.created_of_createEntity created
        exact (c.frame False).tidy (inv.tidy.of_names rfl rfl)
      simp only [during, Except.mapError]
      split
      · rename_i asks
        have alone : e.tableText.further = [] :=
          plain e database (by simp only [Operation.makes?, valid, created, asks, if_true])
        refine grows.trans (.of_eq ?_)
        exact makeTable_sequences (g := ({ g with database } : Engine).register e) tidy alone
      · exact grows

theorem deleteEntity_grows (inv : g.Inv) (id : Int) (dropTable : Bool) (actor : String)
    (ambient : Ambient) : Sequence.Grows g.database.sequences
      (g.deleteEntity id dropTable actor ambient).2.database.sequences := by
  unfold deleteEntity
  split
  · exact .refl _
  · rename_i e database deleted
    obtain ⟨-, change, -, rfl⟩ := Database.softDelete_ok (during_ok deleted)
    have tidy : (g.database.changeEntity id change).Tidy := inv.tidy.of_names rfl rfl
    simp only
    split
    · unfold dropTableOf
      split
      · exact .refl _
      · rename_i dropped result
        have grows := Database.dropTable_grows tidy result
        simp only
        split
        · exact grows
        · rename_i marked set
          obtain ⟨-, rfl⟩ := Database.setTableCreated_ok (during_ok set)
          exact grows
    · exact .refl _

/-- A change of the store that is carried out or not. -/
theorem commit_cases {α : Type} (g : Engine) (result : Except Fault (α × Database)) :
    (g.commit result).2 = g ∨
      ∃ v database, result = .ok (v, database) ∧ (g.commit result).2 = { g with database } := by
  cases result with
  | error f => exact Or.inl rfl
  | ok p => exact Or.inr ⟨p.1, p.2, rfl, rfl⟩

theorem createRecord_advances (inv : g.Inv) (appId : Int) (code : String) (values : ValueMap)
    (actor : String) (ambient : Ambient) :
    g.database.Advances (g.createRecord appId code values actor ambient).2.database := by
  unfold createRecord
  split
  · exact .refl _
  · rename_i e g₁ resolved
    obtain ⟨rfl, live, -⟩ := inv.resolve resolved
    have free := inv.sound.named e live
    split
    · exact .refl _
    · split
      · exact .of_documents (Database.insertRow_grows inv.tidy free)
          ((Database.insertRow_frame inv.tidy free).documents trivial)
      · rcases commit_cases g₁ _ with eq | ⟨stored, database, done, eq⟩
        · rw [eq]
          exact .refl _
        · rw [eq]
          obtain ⟨⟨r, database'⟩, inserted, h⟩ := bind_ok (during_ok done)
          obtain ⟨-, rfl⟩ := Prod.mk.inj (Except.ok.inj h)
          exact (Database.insertRecord_id inserted).2

theorem updateRecord_sequences (inv : g.Inv) (id : Int) (values : ValueMap) (actor : String)
    (ambient : Ambient) :
    (g.updateRecord id values actor ambient).2.database.sequences = g.database.sequences := by
  unfold updateRecord
  split
  · rfl
  · split
    · rfl
    · rename_i e g₁ resolved
      obtain ⟨rfl, -⟩ := inv.resolveId resolved
      split
      · rfl
      · rcases commit_cases g₁ _ with eq | ⟨v, database, done, eq⟩
        · rw [eq]
        · rw [eq]
          exact Database.updateRecord_sequences (during_ok done)

theorem updateRecordByKey_sequences (inv : g.Inv) (entityId : Int) (key : String)
    (values : ValueMap) (actor : String) (ambient : Ambient) :
    (g.updateRecordByKey entityId key values actor ambient).2.database.sequences =
      g.database.sequences := by
  unfold updateRecordByKey
  split
  · rfl
  · rename_i e g₁ resolved
    obtain ⟨rfl, live, -⟩ := inv.resolveId resolved
    have free := inv.sound.named e live
    split
    · split
      · rfl
      · rcases commit_cases g₁ _ with eq | ⟨v, database, done, eq⟩
        · rw [eq]
        · rw [eq]
          obtain ⟨⟨row, database'⟩, updated, h⟩ := bind_ok (during_ok done)
          obtain ⟨-, rfl⟩ := Prod.mk.inj (Except.ok.inj h)
          exact Database.updateRow_sequences inv.tidy free updated
    · split
      · rfl
      · exact updateRecord_sequences inv _ values actor ambient

theorem deleteRecordByKey_sequences (inv : g.Inv) (entityId : Int) (key : String) :
    (g.deleteRecordByKey entityId key).2.database.sequences = g.database.sequences := by
  unfold deleteRecordByKey
  split
  · rfl
  · rename_i e g₁ resolved
    obtain ⟨rfl, live, -⟩ := inv.resolveId resolved
    have free := inv.sound.named e live
    rcases commit_cases g₁ _ with eq | ⟨v, database, done, eq⟩
    · rw [eq]
    · rw [eq]
      obtain ⟨database', deleted, h⟩ := map_ok done
      obtain ⟨-, rfl⟩ := Prod.mk.inj h
      split at deleted
      · exact Database.deleteRow_sequences inv.tidy free (during_ok deleted)
      · exact Database.deleteRecordByKey_sequences (during_ok deleted)

theorem deleteRecord_sequences (g : Engine) (id : Int) :
    (g.deleteRecord id).2.database.sequences = g.database.sequences := by
  rcases commit_cases g (during ("delete record " ++ toString id)
    ((g.database.deleteRecord id).map fun database => ((), database))) with
      eq | ⟨v, database, done, eq⟩
  · rw [deleteRecord, eq]
  · rw [deleteRecord, eq]
    obtain ⟨database', deleted, h⟩ := map_ok (during_ok done)
    obtain ⟨-, rfl⟩ := Prod.mk.inj h
    exact Database.deleteRecord_sequences deleted

end Engine

/-- Whatever an operation does, it gives no id to a document that was given out before. -/
theorem Operation.run_advances (inv : g.Inv) (owned : g.database.Owned) (op : Operation)
    (plain : op.IsPlain g) : g.database.Advances (op.run g).database := by
  have ids := (op.run_documents inv owned plain).1.ids
  cases op with
  | createEntity draft actor ambient =>
    exact .of_ids (Engine.createEntity_grows inv plain) (ids fun _ adds => adds)
  | materialize id =>
    refine .of_ids (.of_eq ?_) (ids fun _ adds => adds)
    simp only [run, Engine.materialize, Engine.entity]
    cases found : g.database.entity? id with
    | none => rfl
    | some e =>
      cases made : e.tableCreated with
      | true => simp only [made, if_true]
      | false =>
        simp only [made, Bool.false_eq_true, if_false]
        exact Engine.makeTable_sequences inv.tidy
          (plain e g.database (by simp only [makes?, found, made, Bool.false_eq_true, if_false]))
  | replaceFields id fields actor ambient =>
    refine .of_ids ?_ (ids fun _ adds => adds)
    simp only [run, Engine.replaceFields]
    split
    · exact .refl _
    · split
      · exact .refl _
      · split
        · exact .refl _
        · rename_i replaced
          exact Database.replaceFields_grows (during_ok replaced)
  | deleteEntity id dropTable actor ambient =>
    exact .of_ids (Engine.deleteEntity_grows inv id dropTable actor ambient)
      (ids fun _ adds => adds)
  | createRecord appId code values actor ambient =>
    exact Engine.createRecord_advances inv appId code values actor ambient
  | recordByKey entityId key =>
    rw [run, Engine.recordByKey_step inv]
    exact .refl _
  | listRecords appId code page size =>
    rw [run, Engine.listRecords_step inv]
    exact .refl _
  | updateRecord id values actor ambient =>
    exact .of_ids (.of_eq (Engine.updateRecord_sequences inv id values actor ambient))
      (ids fun _ adds => adds)
  | updateRecordByKey entityId key values actor ambient =>
    have same := Engine.updateRecordByKey_sequences inv entityId key values actor ambient
    exact .of_ids (.of_eq same) (ids fun _ adds => adds)
  | deleteRecord id =>
    exact .of_ids (.of_eq (Engine.deleteRecord_sequences g id)) (ids fun _ adds => adds)
  | deleteRecordByKey entityId key =>
    exact .of_ids (.of_eq (Engine.deleteRecordByKey_sequences inv entityId key))
      (ids fun _ adds => adds)
  | query appId code options =>
    rw [run, Engine.query_step inv]
    exact .refl _

/-- In every run no document has an id that was not given out. -/
theorem PlainRun.numbered (h : PlainRun g) : g.database.Numbered := by
  induction h with
  | start baseUrl => exact Database.empty_numbered
  | step op run plain ih => exact (op.run_advances run.reached.inv run.owned plain).numbered ih
  | reload _ _ ih => exact ih

/-! ### A document that is deleted -/

/-- An operation removes the document with an id, by that or by its identifier. -/
inductive Operation.Deletes (g : Engine) (id : Int) : Operation → Prop
  | byId (done : (g.deleteRecord id).1 = .ok ()) : Deletes g id (.deleteRecord id)
  | byKey {entityId : Int} {key : String} {r : Record}
      (found : (g.recordByKey entityId key).1 = .ok (.document r)) (own : r.id = id)
      (done : (g.deleteRecordByKey entityId key).1 = .ok ()) :
      Deletes g id (.deleteRecordByKey entityId key)

namespace Engine

theorem commit_ok {α : Type} {result : Except Fault (α × Database)} {v : α}
    (h : (g.commit result).1 = .ok v) : ∃ database, result = .ok (v, database) ∧
      (g.commit result).2 = { g with database } := by
  cases result with
  | error f => cases h
  | ok p =>
    obtain rfl := Except.ok.inj h
    exact ⟨p.2, rfl, rfl⟩

/-- A record that is found as a document is one of a definition without a table. -/
theorem recordByKey_ok (inv : g.Inv) {entityId : Int} {key : String} {r : Record}
    (found : (g.recordByKey entityId key).1 = .ok (.document r)) :
    ∃ e ∈ g.database.live, e.id = entityId ∧ e.tableCreated = false ∧
      ∃ s ∈ g.database.documents, s.entityId = entityId ∧ s.recordId = key ∧ readBack s = r := by
  unfold recordByKey at found
  split at found
  · cases found
  · rename_i e g₁ resolved
    obtain ⟨rfl, live, own⟩ := inv.resolveId resolved
    split at found
    · split at found <;> cases found
    · rename_i unmade
      split at found
      · cases found
      · rename_i r' stored
        obtain rfl := StoredRecord.document.inj (Except.ok.inj found)
        obtain ⟨s, there, same⟩ := Option.map_eq_some_iff.mp stored
        have names : s.entityId = entityId ∧ s.recordId = key := by
          simpa using List.find?_some there
        exact ⟨e, live, own, by simpa using unmade, s, List.mem_of_find?_eq_some there, names.1,
          names.2, same⟩

end Engine

theorem Operation.Deletes.gone {op : Operation} (deletes : op.Deletes g id) (h : PlainRun g) :
    (op.run g).database.Gone id := by
  have inv := h.reached.inv
  have numbered := h.numbered
  cases deletes with
  | byId done =>
    obtain ⟨database, committed, eq⟩ := Engine.commit_ok done
    obtain ⟨database', removed, same⟩ := map_ok (during_ok committed)
    obtain ⟨-, rfl⟩ := Prod.mk.inj same
    have sequences := Database.deleteRecord_sequences removed
    rw [run, Engine.deleteRecord, eq]
    unfold Database.deleteRecord at removed
    split at removed
    · rename_i there
      obtain ⟨s, hs, own⟩ := List.any_eq_true.mp there
      constructor
      · rw [Database.lastId, sequences, ← of_decide_eq_true own]
        exact numbered.ids s hs
      · rw [← Except.ok.inj removed]
        intro r hr
        simpa using (List.mem_filter.mp hr).2
    · cases removed
  | @byKey entityId key r found own done =>
    obtain ⟨e, live, rfl, unmade, s, hs, entity, named, rfl⟩ := Engine.recordByKey_ok inv found
    simp only [run, Engine.deleteRecordByKey, inv.resolveId_live live, unmade, Bool.false_eq_true,
      if_false] at done ⊢
    obtain ⟨database, committed, eq⟩ := Engine.commit_ok done
    obtain ⟨database', told, same⟩ := map_ok committed
    obtain ⟨-, rfl⟩ := Prod.mk.inj same
    have removed := during_ok told
    have sequences := Database.deleteRecordByKey_sequences removed
    rw [eq]
    simp only [Database.deleteRecordByKey] at removed
    split at removed
    · constructor
      · rw [Database.lastId, sequences, ← own]
        exact numbered.ids s hs
      · rw [← Except.ok.inj removed]
        intro r hr same
        obtain ⟨stored, stays⟩ := List.mem_filter.mp hr
        rw [h.owned.eq_of_id stored hs (same.trans own.symm)] at stays
        simp [entity, named] at stays
    · cases removed

/-- What the services may come to: operations without further statements follow, each of which may
fail, and the services may be started anew. -/
inductive Onward (g : Engine) : Engine → Prop
  | refl : Onward g g
  | step {g' : Engine} (op : Operation) : Onward g g' → op.IsPlain g' → Onward g (op.run g')
  | reload {g' : Engine} (baseUrl : String) : Onward g g' →
      Onward g (Engine.start g'.database baseUrl)

namespace Onward

theorem plainRun (onward : Onward g g') (h : PlainRun g) : PlainRun g' := by
  induction onward with
  | refl => exact h
  | step op _ plain ih => exact .step op ih plain
  | reload baseUrl _ ih => exact .reload baseUrl ih

theorem gone (onward : Onward g g') (h : PlainRun g) (gone : g.database.Gone id) :
    g'.database.Gone id := by
  induction onward with
  | refl => exact gone
  | step op before plain ih =>
    have run := before.plainRun h
    exact (op.run_advances run.reached.inv run.owned plain).gone run.numbered ih
  | reload _ _ ih => exact ih

end Onward

/-! ### An id that is not there -/

namespace Engine

/-- Nothing gives, changes or removes a document with the id, and every new document gets a larger
one: lists and queries show other documents, or rows of tables of entities. -/
structure Lacks (g : Engine) (id : Int) : Prop where
  record : g.record id = .error (.recordNotFound (.id id))
  update : ∀ values actor ambient,
    g.updateRecord id values actor ambient = (.error (.recordNotFound (.id id)), g)
  delete : g.deleteRecord id = (.error (.recordNotFound (.id id)), g)
  create : ∀ appId code values actor ambient r,
    (g.createRecord appId code values actor ambient).1 = .ok (.document r) → id < r.id
  byKey : ∀ entityId key r, (g.recordByKey entityId key).1 = .ok (.document r) → r.id ≠ id
  updateByKey : ∀ entityId key values actor ambient r,
    (g.updateRecordByKey entityId key values actor ambient).1 = .ok (.document r) → r.id ≠ id
  list : ∀ appId code page size records, (g.listRecords appId code page size).1 = .ok records →
    ∀ s ∈ records, (∃ r, s = .document r ∧ r.id ≠ id) ∨
      ∃ e ∈ g.database.live, ∃ item, s = .row item ∧ g.database.IsRowOf e item
  query : ∀ appId code options result, (g.query appId code options).1 = .ok result →
    ∃ e ∈ g.database.live, e.appId = appId ∧ e.code = code ∧
      ((∃ page, g.database.queryRecords e options = .ok page ∧
          result.rows = page.items.map (fun r => options.project (r.row e)) ∧
          ∀ r ∈ page.items, r.id ≠ id) ∨
        ∃ page, g.database.queryRows e options = .ok page ∧
          result.rows = page.items.map options.project ∧
          ∀ item ∈ page.items, g.database.IsRowOf e item)

variable {e : Entity}

theorem record_gone (gone : g.database.Gone id) :
    g.record id = .error (.recordNotFound (.id id)) := by
  have absent : g.database.document? id = none :=
    List.find?_eq_none.mpr fun r hr => by simpa using gone.none r hr
  rw [record, Database.record?, absent]
  rfl

theorem createRecord_id (inv : g.Inv) (gone : g.database.Gone id) {appId : Int} {code : String}
    {values : ValueMap} {actor : String} {ambient : Ambient} {r : Record}
    (created : (g.createRecord appId code values actor ambient).1 = .ok (.document r)) :
    id < r.id := by
  unfold createRecord at created
  split at created
  · cases created
  · rename_i e g₁ resolved
    obtain ⟨rfl, -⟩ := inv.resolve resolved
    split at created
    · cases created
    · split at created
      · obtain ⟨row, -, same⟩ := map_ok (during_ok created)
        cases same
      · obtain ⟨database, done, -⟩ := commit_ok created
        obtain ⟨⟨r', database'⟩, inserted, same⟩ := bind_ok (during_ok done)
        obtain ⟨same, -⟩ := Prod.mk.inj (Except.ok.inj same)
        obtain rfl := StoredRecord.document.inj same
        exact Int.lt_of_le_of_lt gone.given (Database.insertRecord_id inserted).1

theorem recordByKey_id (inv : g.Inv) (gone : g.database.Gone id) {entityId : Int} {key : String}
    {r : Record} (found : (g.recordByKey entityId key).1 = .ok (.document r)) : r.id ≠ id := by
  obtain ⟨e, -, -, -, s, hs, -, -, rfl⟩ := recordByKey_ok inv found
  exact gone.none s hs

theorem updateRecord_id (inv : g.Inv) (gone : g.database.Gone id) {other : Int} {values : ValueMap}
    {actor : String} {ambient : Ambient} {r : Record}
    (updated : (g.updateRecord other values actor ambient).1 = .ok r) : r.id ≠ id := by
  unfold updateRecord at updated
  split at updated
  · cases updated
  · split at updated
    · cases updated
    · rename_i e g₁ resolved
      obtain ⟨rfl, -⟩ := inv.resolveId resolved
      split at updated
      · cases updated
      · obtain ⟨database, done, -⟩ := commit_ok updated
        have changed := during_ok done
        unfold Database.updateRecord at changed
        split at changed
        · cases changed
        · rename_i s found
          obtain ⟨rfl, -⟩ := Prod.mk.inj (Except.ok.inj changed)
          exact gone.none s (List.mem_of_find?_eq_some found)

theorem updateRecordByKey_id (inv : g.Inv) (gone : g.database.Gone id) {entityId : Int}
    {key : String} {values : ValueMap} {actor : String} {ambient : Ambient} {r : Record}
    (updated : (g.updateRecordByKey entityId key values actor ambient).1 = .ok (.document r)) :
    r.id ≠ id := by
  unfold updateRecordByKey at updated
  split at updated
  · cases updated
  · rename_i e g₁ resolved
    obtain ⟨rfl, -⟩ := inv.resolveId resolved
    split at updated
    · split at updated
      · cases updated
      · obtain ⟨database, done, -⟩ := commit_ok updated
        obtain ⟨p, -, same⟩ := bind_ok (during_ok done)
        cases (Prod.mk.inj (Except.ok.inj same)).1
    · split at updated
      · cases updated
      · obtain ⟨r', changed, same⟩ := map_ok updated
        obtain rfl := StoredRecord.document.inj same
        exact updateRecord_id inv gone changed

theorem listRecords_other (inv : g.Inv) (gone : g.database.Gone id) {appId : Int} {code : String}
    {page size : Nat} {records : List StoredRecord}
    (listed : (g.listRecords appId code page size).1 = .ok records) : ∀ s ∈ records,
      (∃ r, s = .document r ∧ r.id ≠ id) ∨
        ∃ e ∈ g.database.live, ∃ item, s = .row item ∧ g.database.IsRowOf e item := by
  intro s hs
  unfold listRecords at listed
  split at listed
  · cases listed
  · rename_i e g₁ resolved
    obtain ⟨rfl, live, rfl, rfl⟩ := inv.resolve resolved
    simp only at listed
    split at listed
    · obtain ⟨page, queried, rfl⟩ := map_ok listed
      obtain ⟨item, hi, rfl⟩ := List.mem_map.mp hs
      exact Or.inr ⟨e, live, item, rfl,
        Database.mem_queryRows inv.tidy (inv.sound.named e live) (during_ok queried) hi⟩
    · obtain ⟨found, queried, rfl⟩ := map_ok listed
      obtain ⟨r, hr, rfl⟩ := List.mem_map.mp hs
      obtain ⟨x, hx, rfl, -⟩ := Database.mem_listRecords (during_ok queried) hr
      exact Or.inl ⟨_, rfl, gone.none x hx⟩

theorem query_other (inv : g.Inv) (gone : g.database.Gone id) {appId : Int} {code : String}
    {options : QueryOptions} {result : QueryResult}
    (answer : (g.query appId code options).1 = .ok result) :
    ∃ e ∈ g.database.live, e.appId = appId ∧ e.code = code ∧
      ((∃ page, g.database.queryRecords e options = .ok page ∧
          result.rows = page.items.map (fun r => options.project (r.row e)) ∧
          ∀ r ∈ page.items, r.id ≠ id) ∨
        ∃ page, g.database.queryRows e options = .ok page ∧
          result.rows = page.items.map options.project ∧
          ∀ item ∈ page.items, g.database.IsRowOf e item) := by
  cases resolved : g.resolve appId code with
  | error f =>
    simp only [query, resolved] at answer
    cases answer
  | ok resolution =>
    obtain ⟨e, g₁⟩ := resolution
    obtain ⟨rfl, live, rfl, rfl⟩ := inv.resolve resolved
    refine ⟨e, live, rfl, rfl, ?_⟩
    rcases query_rows inv live answer with ⟨-, page, queried, rows⟩ | ⟨-, page, queried, rows⟩
    · refine Or.inl ⟨page, queried, rows, fun r hr => ?_⟩
      obtain ⟨x, hx, rfl, -⟩ := Database.mem_queryRecords queried hr
      exact gone.none x hx
    · exact Or.inr ⟨page, queried, rows, fun item hi =>
        Database.mem_queryRows inv.tidy (inv.sound.named e live) queried hi⟩

/-- An id that was given out and is not there stands for nothing. -/
theorem lacks (inv : g.Inv) (gone : g.database.Gone id) : g.Lacks id where
  record := record_gone gone
  update values actor ambient := by rw [updateRecord, record_gone gone]
  delete := by
    have absent : (g.database.documents.any fun r => r.id = id) = false :=
      List.any_eq_false.mpr fun r hr => by simpa using gone.none r hr
    rw [deleteRecord, Database.deleteRecord, absent, if_neg Bool.false_ne_true]
    rfl
  create _ _ _ _ _ _ created := createRecord_id inv gone created
  byKey _ _ _ found := recordByKey_id inv gone found
  updateByKey _ _ _ _ _ _ updated := updateRecordByKey_id inv gone updated
  list _ _ _ _ _ listed := listRecords_other inv gone listed
  query _ _ _ _ answer := query_other inv gone answer

end Engine

end EntityEngine
