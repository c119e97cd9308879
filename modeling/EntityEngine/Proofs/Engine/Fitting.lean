import EntityEngine.Proofs.Engine.DocumentWrites
import EntityEngine.Proofs.Engine.Documents
import EntityEngine.Proofs.Engine.Refusal
import EntityEngine.Proofs.Record.Preparation

/-! Documents fit the definition that they were written under. What is stored is what the caller
gave for the fields that the definition had at that moment, with a value under each required one;
and a write is refused for the first required field without a value, and for nothing else that is
wrong with the values. -/

namespace EntityEngine

open Store

variable {g g' : Engine} {e : Entity} {values : ValueMap}

/-! ### What documents were written from -/

/-- What a document was written from: the live definition of its entity at that moment, and the
values that the caller gave. -/
structure Writing where
  definition : Entity
  values : ValueMap

/-- What the documents were written from last, by their ids. -/
abbrev Writings := Int → Option Writing

/-- What the documents were written from, once an operation has written one. -/
def Writings.after (w : Writings) (g : Engine) : Option (Record × ValueMap) → Writings
  | some (r, values) => fun id =>
    if id = r.id then (g.database.entity? r.entityId).map (⟨·, values⟩) else w id
  | none => w

section

variable {w : Writings} {r : Record} {id : Int}

theorem Writings.after_some : w.after g (some (r, values)) id =
    if id = r.id then (g.database.entity? r.entityId).map (⟨·, values⟩) else w id := rfl

theorem Writings.after_own (live : g.database.entity? r.entityId = some e) (same : id = r.id) :
    w.after g (some (r, values)) id = some ⟨e, values⟩ := by
  rw [after_some, if_pos same, live, Option.map_some]

theorem Writings.after_other (other : id ≠ r.id) : w.after g (some (r, values)) id = w id :=
  if_neg other

end

/-- The runs in which no text of a table holds further statements, with what the documents were
written from. -/
inductive WrittenRun : Writings → Engine → Prop
  | start (baseUrl : String) : WrittenRun (fun _ => none) (Engine.start .empty baseUrl)
  | step {w : Writings} {g : Engine} (op : Operation) :
      WrittenRun w g → op.IsPlain g → WrittenRun (w.after g (op.written? g)) (op.run g)
  | reload {w : Writings} {g : Engine} (baseUrl : String) :
      WrittenRun w g → WrittenRun w (Engine.start g.database baseUrl)

theorem WrittenRun.plainRun {w : Writings} (h : WrittenRun w g) : PlainRun g := by
  induction h with
  | start baseUrl => exact .start baseUrl
  | step op _ plain ih => exact .step op ih plain
  | reload baseUrl _ ih => exact .reload baseUrl ih

/-- A document is what was given for the fields of the definition, unchanged, and has a value under
each required one. -/
structure Record.Fits (r : Record) (x : Writing) : Prop where
  own : x.definition.id = r.entityId
  data : r.data = x.values.restrict fun name => name ∈ x.definition.fields.map Field.name
  given : ∀ f ∈ x.definition.fields, f.isNotNull = true → f.default = none →
    ∃ v, r.data.get? f.name = some v ∧ v ≠ .null

/-- Every document fits what it was written from. -/
def Store.Database.Fits (db : Database) (w : Writings) : Prop :=
  ∀ r ∈ db.documents, ∃ x, w r.id = some x ∧ r.Fits x

theorem Entity.declares_eq (e : Entity) (name : String) :
    e.declares name = decide (name ∈ e.fields.map Field.name) := by
  rw [declares, field?, Bool.eq_iff_iff, List.find?_isSome, decide_eq_true_eq, List.mem_map]
  simp

/-- Values that a definition accepts make a document that fits. -/
theorem Record.Fits.of_prepareValues {r : Record} {data : ValueMap}
    (prepared : prepareValues e values = .ok data) (own : r.entityId = e.id)
    (same : r.data = data) : r.Fits ⟨e, values⟩ := by
  obtain rfl := prepareValues_ok prepared
  have accepted := prepareValues_accepted prepared
  refine ⟨own.symm, ?_, fun f hf needed none => ?_⟩
  · rw [same]
    exact congrArg values.restrict (funext e.declares_eq)
  · rw [same, ValueMap.get?_restrict_declares hf]
    have given := missingField?_none_iff.mp accepted f hf
    cases value : values.get? f.name with
    | none => exact absurd ⟨needed, none, Or.inl value⟩ given
    | some v =>
      refine ⟨v, rfl, ?_⟩
      rintro rfl
      exact given ⟨needed, none, Or.inr value⟩

/-- A document that is updated keeps its ids and has the new data. -/
theorem Store.Database.updateRecord_stored {db db' : Database} {s r : Record} {id : Int}
    {data : ValueMap} {actor : String} {ambient : Ambient} (found : db.document? id = some s)
    (h : db.updateRecord id data actor ambient = .ok (r, db')) :
    ∃ changed, changed.id = id ∧ changed.entityId = s.entityId ∧ changed.data = data ∧
      r = readBack changed ∧
        db'.documents = db.documents.map fun x => if x.id = id then changed else x := by
  have meant : s.id = id := by simpa using List.find?_some found
  simp only [updateRecord, found] at h
  obtain ⟨rfl, rfl⟩ := Prod.mk.inj (Except.ok.inj h)
  refine ⟨{ s with
    data
    version := s.version + 1
    audit := s.audit.touched actor ambient.now.toMicros }, meant, rfl, rfl, rfl, rfl⟩

/-- A write keeps documents fitting: the one that is written fits its definition. -/
theorem Engine.DocumentWrite.fits {w : Writings} {written : Option (Record × ValueMap)}
    (write : g.DocumentWrite g' written) (inv : g.Inv) (fits : g.database.Fits w) :
    g'.database.Fits (w.after g written) := by
  cases write with
  | less subset => exact fun r hr => fits r (subset hr)
  | @made e values data actor ambient r he prepared inserted =>
    obtain ⟨same, -, -, -, -, s, documents, own, eq⟩ := Database.insertRecord_stored inserted
    have id : s.id = r.id := by rw [eq]
    have entity : r.entityId = e.id := by rw [← own, eq]
    intro x hx
    rw [documents] at hx
    rcases List.mem_append.mp hx with hx | hx
    · rw [Writings.after_other (Int.ne_of_lt (Database.lt_insertRecord inserted x hx))]
      exact fits x hx
    · obtain rfl := List.mem_singleton.mp hx
      have live := inv.sound.entity?_iff.mpr ⟨he, entity.symm⟩
      refine ⟨_, Writings.after_own live id, .of_prepareValues prepared own ?_⟩
      rw [eq, same]
  | @changed e current r id values data actor ambient he found own prepared updated =>
    obtain ⟨s, there, rfl⟩ := Option.map_eq_some_iff.mp found
    obtain ⟨changed, meant, entity, same, rfl, documents⟩ :=
      Database.updateRecord_stored there updated
    have own : changed.entityId = e.id := entity.trans own
    intro x hx
    rw [documents] at hx
    obtain ⟨y, hy, rfl⟩ := List.mem_map.mp hx
    by_cases named : y.id = id
    · rw [if_pos named]
      have live := inv.sound.entity?_iff.mpr ⟨he, own.symm⟩
      exact ⟨_, Writings.after_own live rfl, .of_prepareValues prepared own same⟩
    · have other : y.id ≠ (readBack changed).id := fun same => named (same.trans meant)
      rw [if_neg named, Writings.after_other other]
      exact fits y hy

theorem WrittenRun.fits {w : Writings} (h : WrittenRun w g) : g.database.Fits w := by
  induction h with
  | start baseUrl => exact fun r hr => nomatch hr
  | step op before plain ih =>
    have run := before.plainRun
    exact (op.documentWrite run.reached.inv run.owned plain).fits run.reached.inv ih
  | reload baseUrl _ ih => exact ih

/-- Every state that a run comes to, it comes to with what its documents were written from. -/
theorem WrittenRun.of_plainRun (h : PlainRun g) : ∃ w, WrittenRun w g := by
  induction h with
  | start baseUrl => exact ⟨_, .start baseUrl⟩
  | step op _ plain ih =>
    obtain ⟨w, run⟩ := ih
    exact ⟨_, .step op run plain⟩
  | reload baseUrl _ ih =>
    obtain ⟨w, run⟩ := ih
    exact ⟨w, .reload baseUrl run⟩

/-! ### What is refused -/

/-- An answer refuses values exactly if a required field misses its value, and it names the first
such field. -/
structure RefusesMissing {α : Type} (e : Entity) (values : ValueMap) (answer : Except Fault α) :
    Prop where
  iff : (∃ d, answer = .error (.invalid d)) ↔ ∃ f ∈ e.fields, f.IsMissing values
  first : ∀ d, answer = .error (.invalid d) → ∃ f, e.FirstMissing values f ∧
    d = .valueMissing f.name e.code

theorem RefusesMissing.map {α β : Type} {answer : Except Fault α}
    (h : RefusesMissing e values answer) (f : α → β) : RefusesMissing e values (answer.map f) := by
  have same : ∀ d, answer.map f = .error (.invalid d) ↔ answer = .error (.invalid d) := by
    cases answer <;> simp [Except.map]
  exact ⟨by simpa only [same] using h.iff, by simpa only [same] using h.first⟩

/-- Values are prepared before anything else is looked at. -/
theorem RefusesMissing.of_prepareValues {α : Type} {answer : Except Fault α}
    (refused : ∀ fault, prepareValues e values = .error fault → answer = .error fault)
    (accepted : ∀ data, prepareValues e values = .ok data → ∀ d, answer ≠ .error (.invalid d)) :
    RefusesMissing e values answer := by
  cases missing : missingField? e values with
  | none =>
    have never := accepted _ (by rw [prepareValues, missing])
    refine ⟨⟨?_, ?_⟩, fun d invalid => absurd invalid (never d)⟩
    · rintro ⟨d, invalid⟩
      exact absurd invalid (never d)
    · rintro ⟨f, hf, own⟩
      exact absurd own (missingField?_none_iff.mp missing f hf)
  | some f =>
    have first := missingField?_iff.mp missing
    have outcome := refused _ (by rw [prepareValues, missing])
    refine ⟨⟨fun _ => ?_, fun _ => ⟨_, outcome⟩⟩, fun d invalid => ⟨f, first, ?_⟩⟩
    · obtain ⟨before, after, fields, own, -⟩ := first
      refine ⟨f, ?_, own⟩
      rw [fields]
      exact List.mem_append_right _ List.mem_cons_self
    · exact (Fault.invalid.inj (Except.error.inj (outcome.symm.trans invalid))).symm

namespace Store.Database

variable {db : Database} {d : Defect} {data : ValueMap} {ambient : Ambient}

theorem not_invalid_of_isRefused {α : Type} {answer : Except Fault α}
    (plain : isRefused answer = false) : answer ≠ .error (.invalid d) := by
  rintro rfl
  cases plain

theorem insertRecord_not_refused (db : Database) (entityId appId : Int) (code : String)
    (data : ValueMap) (actor : String) (ambient : Ambient) :
    isRefused (db.insertRecord entityId code appId data actor ambient) = false := by
  unfold insertRecord
  refine isRefused_bind (isRefused_mapError (fun _ => rfl) _) fun id => ?_
  cases db.documents.any fun r => r.recordId = ambient.recordId <;>
    cases !db.entities.any fun e => e.id = entityId <;> rfl

theorem updateRecord_not_invalid (id : Int) (actor : String) :
    db.updateRecord id data actor ambient ≠ .error (.invalid d) := by
  unfold updateRecord
  split <;> rintro ⟨⟩

theorem getRow_not_refused (db : Database) (e : Entity) (key : String) :
    isRefused (db.getRow e key) = false := by
  unfold getRow
  split
  · rfl
  · split <;> rfl

theorem updateRow_not_invalid (key : String) :
    db.updateRow e key data ambient ≠ .error (.invalid d) := by
  simp only [updateRow]
  split
  · rintro ⟨⟩
  · split
    · have plain := db.getRow_not_refused e key
      cases read : db.getRow e key with
      | error f =>
        rintro ⟨⟩
        rw [read] at plain
        cases plain
      | ok row? => cases row? <;> rintro ⟨⟩
    · split <;> rintro ⟨⟩

end Store.Database

namespace Engine

theorem commit_not_invalid {α : Type} {context : String} {result : Except Fault (α × Database)}
    {d : Defect} (plain : result ≠ .error (.invalid d)) :
    (g.commit (during context result)).1 ≠ .error (.invalid d) := by
  intro invalid
  have failed : during context result = .error (.invalid d) := by
    cases outcome : during context result with
    | error f =>
      rw [outcome] at invalid
      exact congrArg Except.error (Except.error.inj invalid)
    | ok p =>
      rw [outcome] at invalid
      cases invalid
  exact plain (during_error failed fun _ _ => nofun)

theorem createRecord_refusesMissing (inv : g.Inv) (he : e ∈ g.database.live) (values : ValueMap)
    (actor : String) (ambient : Ambient) :
    RefusesMissing e values (g.createRecord e.appId e.code values actor ambient).1 := by
  refine .of_prepareValues (fun fault refused => ?_) fun data accepted d => ?_
  · simp only [createRecord, inv.resolve_live he, refused]
  · simp only [createRecord, inv.resolve_live he, accepted]
    split
    · refine Database.not_invalid_of_isRefused ?_
      rw [isRefused_during, isRefused_map]
      exact g.database.insertRow_not_refused e data ambient
    · refine commit_not_invalid (Database.not_invalid_of_isRefused ?_)
      exact isRefused_bind (Database.insertRecord_not_refused _ _ _ _ _ _ _) fun _ => rfl

theorem updateRecord_refusesMissing (inv : g.Inv) (he : e ∈ g.database.live) {id : Int}
    {r : Record} (found : g.record id = .ok r) (own : r.entityId = e.id) (values : ValueMap)
    (actor : String) (ambient : Ambient) :
    RefusesMissing e values (g.updateRecord id values actor ambient).1 := by
  refine .of_prepareValues (fun fault refused => ?_) fun data accepted d => ?_
  · simp only [updateRecord, found, own, inv.resolveId_live he, refused]
  · simp only [updateRecord, found, own, inv.resolveId_live he, accepted]
    exact commit_not_invalid (Database.updateRecord_not_invalid id actor)

theorem updateRecordByKey_refusesMissing (inv : g.Inv) (owned : g.database.Owned)
    (he : e ∈ g.database.live) {key : String}
    (there : e.tableCreated = true ∨ ∃ r, g.database.recordByKey? e.id key = some r)
    (values : ValueMap) (actor : String) (ambient : Ambient) :
    RefusesMissing e values (g.updateRecordByKey e.id key values actor ambient).1 := by
  cases created : e.tableCreated with
  | true =>
    refine .of_prepareValues (fun fault refused => ?_) fun data accepted d => ?_
    · simp only [updateRecordByKey, inv.resolveId_live he, created, if_true, refused]
    · simp only [updateRecordByKey, inv.resolveId_live he, created, if_true, accepted]
      refine commit_not_invalid fun invalid => ?_
      rcases bind_error invalid with invalid | ⟨p, -, invalid⟩
      · exact Database.updateRow_not_invalid key invalid
      · cases invalid
  | false =>
    obtain ⟨r, found⟩ := there.resolve_left (by simp [created])
    obtain ⟨s, hs, rfl⟩ := Option.map_eq_some_iff.mp found
    have own : s.entityId = e.id := by
      have meant := List.find?_some hs
      simp only [decide_eq_true_eq] at meant
      exact meant.1
    have shown := record_ok owned (List.mem_of_find?_eq_some hs)
    simp only [updateRecordByKey, inv.resolveId_live he, created, found, Bool.false_eq_true,
      if_false]
    exact (updateRecord_refusesMissing inv he shown own values actor ambient).map
      StoredRecord.document

/-- What is handed in for a record of a definition, to create it or to update it, is refused exactly
if a required field misses its value. A record is there to be updated if the definition has a table,
or if its document is found. -/
structure RefusesMissingFor (g : Engine) (e : Entity) (values : ValueMap) (actor : String)
    (ambient : Ambient) : Prop where
  create : RefusesMissing e values (g.createRecord e.appId e.code values actor ambient).1
  update : ∀ id r, g.record id = .ok r → r.entityId = e.id →
    RefusesMissing e values (g.updateRecord id values actor ambient).1
  updateByKey : ∀ key, (e.tableCreated = true ∨ ∃ r, g.database.recordByKey? e.id key = some r) →
    RefusesMissing e values (g.updateRecordByKey e.id key values actor ambient).1

end Engine

def declareMemo : Operation :=
  .createEntity
    { appId := 1
      name := "Memo"
      table := "memo"
      code := some "memo"
      fields := [{ name := "body", type := .text, isNotNull := true }] }
    "a" ⟨⟨0, 0⟩, "r", "c"⟩

/-- What is handed in for a memo; the color is not declared. -/
def memoValues : ValueMap := [("body", .text "first"), ("color", .text "red")]

def storeMemo : Operation := .createRecord 1 "memo" memoValues "a" ⟨⟨0, 0⟩, "r", "c"⟩

def memos : Engine := storeMemo.run (declareMemo.run (.start .empty ""))

/-- The document with the first id is of the declared definition, which requires the body only. -/
def HasMemo (g : Engine) : Prop :=
  (g.database.documents.any fun r => r.id == 1) = true ∧
    (g.database.entity? 1).any (fun e => e.code == "memo" && !e.fields.isEmpty &&
      e.fields.all fun f => f.name == "body" && f.isNotNull && f.default.isNone) = true

instance (g : Engine) : Decidable (HasMemo g) := inferInstanceAs (Decidable (_ ∧ _))

end EntityEngine
