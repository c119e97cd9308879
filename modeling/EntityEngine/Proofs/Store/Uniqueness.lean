import EntityEngine.Proofs.Store.Definitions

/-! Definitions in a store that is asked to take anything. Nothing is looked at before it is stored,
yet among the definitions that are not deleted every code is used once in an application, and no
table belongs to two of them. What is deleted stays deleted, for no id is used again. -/

namespace EntityEngine.Store

/-- The writes of definitions. None of them asks whether what it stores is valid. -/
inductive DefinitionWrite where
  | create (draft : EntityDraft) (actor : String) (ambient : Ambient)
  | replaceFields (id : Int) (fields : List FieldDraft) (actor : String) (ambient : Ambient)
  | mark (id : Int) (created : Bool)
  | delete (id : Int) (actor : String) (ambient : Ambient)

/-- The store after a write. One that fails leaves it as it was. -/
def DefinitionWrite.run (w : DefinitionWrite) (db : Database) : Database :=
  let result : Except Fault Database :=
    match w with
    | create draft actor ambient => (db.createEntity draft actor ambient).map Prod.snd
    | replaceFields id fields actor ambient =>
      (db.replaceFields id fields actor ambient).map Prod.snd
    | mark id created => db.setTableCreated id created
    | delete id actor ambient => (db.softDelete id actor ambient).map Prod.snd
  match result with
  | .ok db' => db'
  | .error _ => db

namespace Database

variable {db db' : Database} {id : Int}

/-- What a store comes to by writes of definitions, each of which may fail. -/
inductive Written (db : Database) : Database → Prop
  | refl : Written db db
  | step {db' : Database} (w : DefinitionWrite) : Written db db' → Written db (w.run db')

/-- A write leaves the definitions as they are, or stores a new one, or changes one that stays under
its code. -/
theorem write_cases (w : DefinitionWrite) (db : Database) :
    (w.run db).entities = db.entities ∨
      (∃ draft ambient e, db.Created draft ambient e (w.run db)) ∨
        ∃ e ∈ db.entities, ∃ change, Mild e (change e) ∧
          (w.run db).entities = (db.changeEntity e.id change).entities := by
  cases w with
  | create draft actor ambient =>
    simp only [DefinitionWrite.run]
    cases created : db.createEntity draft actor ambient with
    | error f => exact Or.inl rfl
    | ok p => exact Or.inr (Or.inl ⟨draft, ambient, p.1, created_of_createEntity created⟩)
  | replaceFields id fields actor ambient =>
    simp only [DefinitionWrite.run]
    cases replaced : db.replaceFields id fields actor ambient with
    | error f => exact Or.inl rfl
    | ok p =>
      obtain ⟨e, r⟩ := replaced_of_replaceFields replaced
      obtain ⟨he, rfl⟩ := mem_of_entity? r.found
      exact Or.inr (Or.inr ⟨e, (mem_live.mp he).1, _, r.mild, (r.frame True).entities trivial⟩)
  | mark id created =>
    simp only [DefinitionWrite.run]
    cases marked : db.setTableCreated id created with
    | error f => exact Or.inl rfl
    | ok db' =>
      obtain ⟨⟨e, he, rfl⟩, rfl⟩ := setTableCreated_ok marked
      exact Or.inr (Or.inr ⟨e, he, _, mild_mark e created, rfl⟩)
  | delete id actor ambient =>
    simp only [DefinitionWrite.run]
    cases deleted : db.softDelete id actor ambient with
    | error f => exact Or.inl rfl
    | ok p =>
      obtain ⟨found, change, deletes, eq⟩ := softDelete_ok deleted
      obtain ⟨he, rfl⟩ := mem_of_entity? found
      exact Or.inr (Or.inr ⟨p.1, (mem_live.mp he).1, change, (deletes p.1).2,
        congrArg Database.entities eq⟩)

theorem Unique.write (h : db.Unique) (w : DefinitionWrite) : (w.run db).Unique := by
  rcases write_cases w db with same | ⟨draft, ambient, e, c⟩ | ⟨e, he, change, mild, eq⟩
  · exact h.of_entities same
  · exact c.unique h
  · exact (h.changeEntity he mild).of_entities eq

theorem Written.unique (h : db.Written db') (unique : db.Unique) : db'.Unique := by
  induction h with
  | refl => exact unique
  | step w _ ih => exact ih.write w

/-! ### Deleted definitions -/

/-- The id is that of a deleted definition. -/
def Buried (db : Database) (id : Int) : Prop := ∃ d ∈ db.entities, d.id = id ∧ d.deleted = true

theorem Buried.write (h : db.Buried id) (unique : db.Unique) (w : DefinitionWrite) :
    (w.run db).Buried id := by
  obtain ⟨d, hd, rfl, deleted⟩ := h
  rcases write_cases w db with same | ⟨draft, ambient, e, c⟩ | ⟨e, he, change, mild, eq⟩
  · rw [Buried, same]
    exact ⟨d, hd, rfl, deleted⟩
  · rw [Buried, c.entities]
    exact ⟨d, List.mem_append_left _ hd, rfl, deleted⟩
  · rw [Buried, eq]
    refine ⟨_, mem_changeEntity.mpr ⟨d, hd, rfl⟩, ?_⟩
    split
    · rename_i same
      obtain rfl := unique.eq_of_id hd he same
      refine ⟨mild.id, ?_⟩
      rw [← Bool.not_eq_false]
      intro alive
      rw [mild.live alive] at deleted
      cases deleted
    · exact ⟨rfl, deleted⟩

theorem Written.buried (h : db.Written db') (unique : db.Unique) (buried : db.Buried id) :
    db'.Buried id := by
  induction h with
  | refl => exact buried
  | step w before ih => exact ih.write (before.unique unique) w

theorem Buried.ne_of_live (h : db.Buried id) (unique : db.Unique) : ∀ e ∈ db.live, e.id ≠ id := by
  intro e he same
  obtain ⟨d, hd, rfl, deleted⟩ := h
  rw [← unique.eq_of_id (mem_live.mp he).1 hd same, live_deleted he] at deleted
  cases deleted

theorem buried_of_softDelete {actor : String} {ambient : Ambient} {e : Entity}
    (h : db.softDelete id actor ambient = .ok (e, db')) : db'.Buried id := by
  obtain ⟨found, change, deletes, rfl⟩ := softDelete_ok h
  obtain ⟨he, rfl⟩ := mem_of_entity? found
  refine ⟨change e, mem_changeEntity.mpr ⟨e, (mem_live.mp he).1, if_pos rfl⟩, ?_⟩
  exact ⟨(deletes e).2.id, (deletes e).1⟩

/-- Whatever the store is asked for, it does not give the definition with an id. -/
structure Hides (db : Database) (id : Int) : Prop where
  entity? : db.entity? id = none
  entityByCode? : ∀ appId code e, db.entityByCode? appId code = some e → e.id ≠ id
  entityByName? : ∀ appId name e, db.entityByName? appId name = some e → e.id ≠ id
  list : ∀ appId, ∀ e ∈ db.list appId, e.id ≠ id
  listAll : ∀ e ∈ db.listAll, e.id ≠ id

theorem hides_of_ne (h : ∀ e ∈ db.live, e.id ≠ id) : db.Hides id where
  entity? := List.find?_eq_none.mpr fun e he => by simpa using h e he
  entityByCode? := fun _ _ e found => h e (List.mem_of_find?_eq_some found)
  entityByName? := fun _ _ e found => h e (List.mem_of_find?_eq_some found)
  list := fun _ e he => h e (List.mem_filter.mp (List.mem_mergeSort.mp he)).1
  listAll := fun e he => h e (List.mem_mergeSort.mp he)

/-! ### Live definitions -/

/-- At most one element of a list has a property that no two of them share. -/
theorem length_filter_le_one {α : Type} {r : α → α → Prop} {l : List α} (apart : l.Pairwise r)
    {p : α → Bool} (shared : ∀ a b, p a = true → p b = true → ¬ r a b) :
    (l.filter p).length ≤ 1 := by
  have pairs := apart.filter p
  have all : ∀ a ∈ l.filter p, p a = true := fun a ha => (List.mem_filter.mp ha).2
  match found : l.filter p with
  | [] => simp
  | [a] => simp
  | a :: b :: rest =>
    rw [found] at pairs all
    have ab := (List.pairwise_cons.mp pairs).1 b List.mem_cons_self
    exact absurd ab (shared a b (all a List.mem_cons_self) (all b (by simp)))

/-- In every store that writes of definitions lead to, valid or not, no two live definitions share a
code in an application, and no two of any application a table, whatever the case of its letters. So
a code and a table stand for one live definition at most. A definition that is deleted is never
given again, whatever is written later. -/
theorem definitions_unique (h : empty.Written db) :
    db.live.Pairwise (fun d e => d.id ≠ e.id ∧ (d.appId = e.appId → d.code ≠ e.code) ∧
      Text.sameFold d.table e.table = false) ∧
    (∀ appId code, (db.live.filter fun e => e.appId = appId ∧ e.code = code).length ≤ 1) ∧
    (∀ table, (db.live.filter fun e => Text.sameFold e.table table).length ≤ 1) ∧
    ∀ id actor ambient e db', db.softDelete id actor ambient = .ok (e, db') →
      ∀ later, db'.Written later → later.Hides id := by
  have unique := h.unique empty_sound.toUnique
  have apart : db.live.Pairwise fun d e => d.id ≠ e.id ∧
      (d.appId = e.appId → d.code ≠ e.code) ∧ Text.sameFold d.table e.table = false :=
    unique.live_distinct.imp_of_mem fun hd he distinct =>
      ⟨distinct.1, distinct.2, unique.apart hd he distinct.1.symm⟩
  refine ⟨apart, fun appId code => ?_, fun table => ?_, ?_⟩
  · refine length_filter_le_one apart fun d e hd he distinct => ?_
    obtain ⟨app, own⟩ : d.appId = appId ∧ d.code = code := by simpa using hd
    obtain ⟨app', own'⟩ : e.appId = appId ∧ e.code = code := by simpa using he
    exact distinct.2.1 (app.trans app'.symm) (own.trans own'.symm)
  · refine length_filter_le_one apart fun d e hd he distinct => ?_
    rw [Text.sameFold_congr hd, Text.sameFold_comm, he] at distinct
    exact Bool.noConfusion distinct.2.2
  · intro id actor ambient e db' deleted later written
    have now : db' = (DefinitionWrite.delete id actor ambient).run db := by
      rw [DefinitionWrite.run, deleted]
      rfl
    have unique' : db'.Unique := by
      rw [now]
      exact unique.write _
    have buried := written.buried unique' (buried_of_softDelete deleted)
    exact hides_of_ne (buried.ne_of_live (written.unique unique'))

/-- A definition that no validation would accept, for it has no name and no fields. -/
def writeNote : DefinitionWrite :=
  .create { appId := 1, name := "", table := " note ", code := some " note ", fields := [] } "a"
    ⟨⟨0, 0⟩, "r", "c"⟩

def writtenNote : Database := writeNote.run .empty

def deletedNote : Database := (DefinitionWrite.delete 1 "a" ⟨⟨0, 0⟩, "r", "c"⟩).run writtenNote

/-- The code and the table can be used again once the note is deleted, but not its id. -/
theorem definitions_unique_note :
    (∃ e, writtenNote.softDelete 1 "a" ⟨⟨0, 0⟩, "r", "c"⟩ = .ok (e, deletedNote)) ∧
      (writeNote.run deletedNote).Hides 1 ∧
        ∃ e, (writeNote.run deletedNote).entityByCode? 1 "note" = some e := by
  have deletes : (writtenNote.softDelete 1 "a" ⟨⟨0, 0⟩, "r", "c"⟩).toOption.isSome = true := by
    decide +kernel
  have renewed : ((writeNote.run deletedNote).entityByCode? 1 "note").isSome = true := by
    decide +kernel
  have deleted : ∃ e, writtenNote.softDelete 1 "a" ⟨⟨0, 0⟩, "r", "c"⟩ = .ok (e, deletedNote) := by
    rw [deletedNote, DefinitionWrite.run]
    cases result : writtenNote.softDelete 1 "a" ⟨⟨0, 0⟩, "r", "c"⟩ with
    | error f =>
      rw [result] at deletes
      cases deletes
    | ok p => exact ⟨p.1, rfl⟩
  have written : empty.Written writtenNote := .step writeNote .refl
  refine ⟨deleted, ?_, Option.isSome_iff_exists.mp renewed⟩
  obtain ⟨e, deleted⟩ := deleted
  exact (definitions_unique written).2.2.2 1 _ _ e _ deleted _ (.step writeNote .refl)

end Database

end EntityEngine.Store
