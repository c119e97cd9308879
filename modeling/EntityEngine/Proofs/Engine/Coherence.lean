import EntityEngine.Proofs.Engine.Run
import EntityEngine.Proofs.Store.Fit

/-! Definitions and their tables, in runs that leave the types of columns open. A table has the
columns and the primary key of its definition as that was when the table was made; fields that are
replaced later leave the table as it is. -/

namespace EntityEngine

open Store

/-! ### Stored fields -/

/-- The drafts of fields leave the types of their columns open. -/
def LeaveTypes (fields : List FieldDraft) : Prop :=
  ∀ f ∈ fields, f.columnType.all Text.isBlankText = true

theorem typeFor_of_blank {f : FieldDraft} (layout : Layout)
    (blank : f.columnType.all Text.isBlankText = true) :
    FieldDraft.typeFor f layout = f.type.columnType f.length f.scale layout := by
  unfold FieldDraft.typeFor
  cases type : f.columnType with
  | none => rfl
  | some t =>
    rw [type] at blank
    have text : Text.isBlankText t = true := blank
    simp [Option.filter, text]

/-- Types that are left open follow from the types of the fields. -/
theorem derived_of_stored {e : Entity} {id first : Int} {fields : List FieldDraft} {audit : Audit}
    (some : fields ≠ []) (leave : LeaveTypes fields)
    (stored : e.fields = sortFields (storedFields id first e.layout audit fields)) :
    e.HasDerivedTypes := by
  have perm : e.fields.Perm (storedFields id first e.layout audit fields) := by
    rw [stored]
    exact List.mergeSort_perm _ _
  constructor
  · intro none
    have length := perm.length_eq
    rw [none, storedFields, List.length_map, List.length_zipIdx, List.length_nil] at length
    exact some (List.length_eq_zero_iff.mp length.symm)
  · intro f hf
    obtain ⟨⟨draft, i⟩, mem, rfl⟩ := List.mem_map.mp (perm.mem_iff.mp hf)
    exact typeFor_of_blank _ (leave draft (List.fst_mem_of_mem_zipIdx mem))

/-- The fields are those of drafts that are valid for the layout, as they are stored. -/
def Entity.HasStoredFields (e : Entity) : Prop :=
  ∃ fields id first audit, validateFields fields e.layout = .ok () ∧
    e.fields = sortFields (storedFields id first e.layout audit fields)

/-! ### What a definition was -/

/-- `d` is `e` or an earlier state of it: fields are replaced only with a new version. -/
structure Entity.Precedes (d e : Entity) : Prop where
  id : d.id = e.id
  table : d.table = e.table
  kind : d.kind = e.kind
  version : d.version ≤ e.version
  fields : d.version = e.version → d.fields = e.fields

theorem Entity.Precedes.refl (e : Entity) : e.Precedes e :=
  ⟨rfl, rfl, rfl, Int.le_refl _, fun _ => rfl⟩

theorem Entity.Precedes.trans {d e f : Entity} (h₁ : d.Precedes e) (h₂ : e.Precedes f) :
    d.Precedes f := by
  have first := h₁.version
  have second := h₂.version
  refine ⟨h₁.id.trans h₂.id, h₁.table.trans h₂.table, h₁.kind.trans h₂.kind, by omega, ?_⟩
  intro same
  rw [h₁.fields (by omega), h₂.fields (by omega)]

/-- The definitions as they were when their tables were made, by their ids. -/
abbrev Makings := Int → Option Entity

/-- What is known after a step from one engine to another: a definition that has a table now, and
had none before, is as it was when its table was made. -/
def Makings.after (made : Makings) (g g' : Engine) : Makings := fun id =>
  match g'.database.entity? id with
  | some e =>
    if e.tableCreated && !(g.database.entity? id).any Entity.tableCreated then some e else made id
  | none => made id

section

variable {made : Makings} {g g' : Engine} {id : Int} {e : Entity}

theorem Makings.after_of_made (before : g.database.entity? id = some e)
    (had : e.tableCreated = true) : made.after g g' id = made id := by
  unfold Makings.after
  split
  · simp [before, had]
  · rfl

theorem Makings.after_of_unmade (now : g'.database.entity? id = some e)
    (created : e.tableCreated = true)
    (unmade : (g.database.entity? id).any Entity.tableCreated = false) :
    made.after g g' id = some e := by
  simp [Makings.after, now, created, unmade]

end

/-- The runs that leave the types of columns open. -/
inductive Run : Makings → Engine → Prop
  | start (baseUrl : String) : Run (fun _ => none) (Engine.start .empty baseUrl)
  | step {made : Makings} {g : Engine} (op : Operation) :
      Run made g → LeaveTypes op.fields → Run (made.after g (op.run g)) (op.run g)
  | reload {made : Makings} {g : Engine} (baseUrl : String) :
      Run made g → Run made (Engine.start g.database baseUrl)

/-! ### Steps -/

namespace Engine

/-- A definition of `g'` was in `g` with its table, which is there as it was. -/
def Carries (g g' : Engine) (e' : Entity) : Prop :=
  ∃ e ∈ g.database.live, e.tableCreated = true ∧ e.Precedes e' ∧
    ∀ t ∈ g.database.tables.map Table.form, t.name = e.table →
      t ∈ g'.database.tables.map Table.form

/-- A definition of `g'` has a table that was made of it. -/
def Fresh (g' : Engine) (e' : Entity) : Prop :=
  ∃ t ∈ g'.database.tables.map Table.form, t.IsMadeOf e'

/-- What runs keep to: types follow from fields, and every table that a definition has is the one
that was made of it. -/
structure Coherent (made : Makings) (g : Engine) : Prop where
  inv : g.Inv
  derived : ∀ e ∈ g.database.live, e.HasDerivedTypes
  tables : ∀ e ∈ g.database.live, e.tableCreated = true → ∃ d, made e.id = some d ∧
    d.Precedes e ∧ ∃ t ∈ g.database.tables.map Table.form, t.IsMadeOf d

variable {g g' : Engine} {made : Makings}

theorem Carries.trans {g'' : Engine} {e : Entity} (h₂ : Carries g' g'' e)
    (h₁ : ∀ d ∈ g'.database.live, d.tableCreated = true → Carries g g' d) : Carries g g'' e := by
  obtain ⟨d, hd, created, precedes, kept⟩ := h₂
  obtain ⟨c, hc, created', precedes', kept'⟩ := h₁ d hd created
  refine ⟨c, hc, created', precedes'.trans precedes, fun t ht name => ?_⟩
  exact kept t (kept' t ht name) (name.trans precedes'.table)

/-- A step that carries every table over, or makes it. -/
theorem Coherent.step (h : Coherent made g) (inv : g'.Inv)
    (derived : ∀ e ∈ g'.database.live, e.HasDerivedTypes)
    (tables : ∀ e ∈ g'.database.live, e.tableCreated = true → Carries g g' e ∨
      ((∀ d ∈ g.database.live, d.id = e.id → d.tableCreated = false) ∧ Fresh g' e)) :
    Coherent (made.after g g') g' := by
  refine ⟨inv, derived, fun e he created => ?_⟩
  have found : g'.database.entity? e.id = some e := inv.sound.entity?_iff.mpr ⟨he, rfl⟩
  rcases tables e he created with ⟨d, hd, had, precedes, kept⟩ | ⟨first, t, ht, own⟩
  · have before : g.database.entity? e.id = some d :=
      h.inv.sound.entity?_iff.mpr ⟨hd, precedes.id⟩
    obtain ⟨c, known, precedes', t, ht, own⟩ := h.tables d hd had
    have name : t.name = d.table := own.name.trans precedes'.table
    refine ⟨c, ?_, precedes'.trans precedes, t, kept t ht name, own⟩
    rw [Makings.after_of_made before had, ← precedes.id]
    exact known
  · have unmade : (g.database.entity? e.id).any Entity.tableCreated = false := by
      cases before : g.database.entity? e.id with
      | none => rfl
      | some d =>
        obtain ⟨hd, same⟩ := h.inv.sound.entity?_iff.mp before
        exact first d hd same
    exact ⟨e, Makings.after_of_unmade found created unmade, .refl e, t, ht, own⟩

end Engine

variable {g g' : Engine} {made : Makings}

/-- Where the tables that stood there stand still. -/
theorem Engine.Carries.of_forms {e e' : Entity} (he : e ∈ g.database.live)
    (created : e.tableCreated = true) (precedes : e.Precedes e')
    (forms : g'.database.tables.map Table.form = g.database.tables.map Table.form) :
    Engine.Carries g g' e' := by
  refine ⟨e, he, created, precedes, fun t ht _ => ?_⟩
  rw [forms]
  exact ht

namespace Operation.Move

variable {op : Operation}

theorem precedes_of_replaced {id : Int} {fields : List FieldDraft} {e e' : Entity}
    {database : Database} (r : g.database.Replaced id fields e e' database) : e.Precedes e' := by
  obtain ⟨first, audit, audit', rfl⟩ := r.changed
  refine ⟨rfl, rfl, rfl, ?_, ?_⟩
  · show e.version ≤ e.version + 1
    omega
  · intro same
    have version : e.version = e.version + 1 := same
    omega

/-- What is live after a definition is deleted and its table dropped: the other live ones. -/
theorem mem_live_dropped (inv : g.Inv) {e : Entity} (he : e ∈ g.database.live)
    {change : Entity → Entity}
    (deletes : ∀ d, (change d).deleted = true ∧ Database.Mild d (change d))
    {dropped : Database} (d : (g.database.changeEntity e.id change).Dropped e.table dropped)
    {x : Entity} :
    x ∈ (dropped.marked e.id false).live ↔ x ∈ g.database.live ∧ x.id ≠ e.id := by
  have now := Engine.deleted_inv inv he deletes
  have stored : change e ∈ (g.database.changeEntity e.id change).entities :=
    Database.mem_changeEntity.mpr ⟨e, (Database.mem_live.mp he).1, if_pos rfl⟩
  rw [Engine.live_dropped d]
  nth_rewrite 2 [← (deletes e).2.id]
  rw [now.sound.mem_live_marked_deleted stored (deletes e).1 false]
  exact inv.sound.mem_live_deleted he (deletes e).1

/-- What is live after an operation was live before, or has just been given its fields. -/
theorem mem_live (move : op.Move g g') (inv : g.Inv) {e : Entity} (he : e ∈ g'.database.live) :
    e ∈ g.database.live ∨ validateFields op.fields e.layout = .ok () ∧ ∃ id first audit,
      e.fields = sortFields (storedFields id first e.layout audit op.fields) := by
  cases move with
  | records step =>
    rw [step.live] at he
    exact Or.inl he
  | created valid same c =>
    rcases c.mem_live.mp he with he | rfl
    · exact Or.inl he
    · obtain ⟨first, audit, fields⟩ := c.fields
      rw [← c.layout, same] at fields
      have valid := (validate_ok valid).2
      rw [← c.layout, same] at valid
      exact Or.inr ⟨valid, _, first, audit, fields⟩
  | replaced valid r =>
    rcases (r.mem_live inv.sound).mp he with rfl | ⟨he, -⟩
    · obtain ⟨first, audit, audit', rfl⟩ := r.changed
      exact Or.inr ⟨valid, _, first, audit, rfl⟩
    · exact Or.inl he
  | deleted hd _ deletes => exact Or.inl ((inv.sound.mem_live_deleted hd (deletes _).1).mp he).1
  | dropped hd _ deletes d => exact Or.inl ((mem_live_dropped inv hd deletes d).mp he).1

theorem derived (move : op.Move g g') (inv : g.Inv) (leave : LeaveTypes op.fields)
    (before : ∀ e ∈ g.database.live, e.HasDerivedTypes) :
    ∀ e ∈ g'.database.live, e.HasDerivedTypes := by
  intro e he
  rcases move.mem_live inv he with he | ⟨valid, id, first, audit, stored⟩
  · exact before e he
  · exact derived_of_stored (some_of_validateFields valid) leave stored

/-- Every definition with a table had it before, and the table is as it was. -/
theorem carries (move : op.Move g g') (inv : g.Inv) :
    ∀ e ∈ g'.database.live, e.tableCreated = true → Engine.Carries g g' e := by
  cases move with
  | records step =>
    intro e he created
    rw [step.live] at he
    exact .of_forms he created (.refl e) step.frame.forms
  | created valid same c =>
    intro e he created
    rcases c.mem_live.mp he with he | rfl
    · exact .of_forms he created (.refl e) (c.frame False).forms
    · rw [c.unmade] at created
      cases created
  | replaced valid r =>
    intro e he created
    rcases (r.mem_live inv.sound).mp he with rfl | ⟨he, -⟩
    · have hd := (inv.sound.entity?_iff.mp r.found).1
      refine .of_forms hd ?_ (precedes_of_replaced r) (r.frame False).forms
      obtain ⟨first, audit, audit', rfl⟩ := r.changed
      exact created
    · exact .of_forms he created (.refl e) (r.frame False).forms
  | deleted hd _ deletes =>
    intro e he created
    have before := (inv.sound.mem_live_deleted hd (deletes _).1).mp he
    exact .of_forms before.1 created (.refl e) rfl
  | dropped hd _ deletes d =>
    intro e he created
    obtain ⟨before, ne⟩ := (mem_live_dropped inv hd deletes d).mp he
    refine ⟨e, before, created, .refl e, fun t ht name => ?_⟩
    show t ∈ List.map Table.form _
    rw [Database.marked, Database.changeEntity, d.forms, List.mem_filter]
    refine ⟨ht, ?_⟩
    -- No two live definitions have one table.
    rw [Bool.not_eq_true', Bool.eq_false_iff, name]
    intro same
    exact ne (congrArg Entity.id (inv.sound.tables e before _ hd same))

end Operation.Move

namespace Engine

/-- Where types are left open, making a table leaves the definitions alone. -/
theorem createTable_entities (inv : g.Inv) {e : Entity} (derived : e.HasDerivedTypes)
    {made : Database} (created : g.database.createTable e = .ok made) :
    made.entities = g.database.entities :=
  ((Database.made_of_createTable inv.tidy created).rest (Entity.further_tableText derived)).1

/-- What is live once a table is made was live before, but for the mark. -/
theorem makeTable_live (inv : g.Inv) {e : Entity} (he : e ∈ g.database.live)
    (leaves : ∀ made, g.database.createTable e = .ok made → made.entities = g.database.entities) :
    ∀ d ∈ (g.makeTable e).2.database.live,
      d ∈ g.database.live ∨ d = { e with tableCreated := true } := by
  rcases makeTable_cases g e with ⟨-, eq⟩ | ⟨made, created, ⟨-, eq⟩ | ⟨gone, -⟩⟩
  · rw [eq]
    exact fun d hd => Or.inl hd
  · rw [eq]
    intro d hd
    have hd : d ∈ (made.marked e.id true).live := hd
    rw [Database.live_marked_congr (leaves made created), inv.sound.mem_live_marked he] at hd
    exact hd.symm.imp_left And.left
  · rw [leaves made created] at gone
    exact absurd rfl (gone e (Database.mem_live.mp he).1)

theorem makeTable_tables (inv : g.Inv) {e : Entity} (he : e ∈ g.database.live)
    (derived : ∀ d ∈ g.database.live, d.HasDerivedTypes) :
    ∀ d ∈ (g.makeTable e).2.database.live, d.HasDerivedTypes ∧ (d.tableCreated = true →
      Carries g (g.makeTable e).2 d ∨ (d.id = e.id ∧ Fresh (g.makeTable e).2 d)) := by
  rcases makeTable_cases g e with ⟨-, eq⟩ | ⟨made, created, ⟨-, eq⟩ | ⟨gone, -⟩⟩
  · rw [eq]
    exact fun d hd => ⟨derived d hd, fun had => Or.inl (.of_forms hd had (.refl d) rfl)⟩
  · have same := createTable_entities inv (derived e he) created
    have live := Database.live_marked_congr same e.id true
    obtain ⟨spec, declared, forms⟩ := (Database.made_of_createTable inv.tidy created).forms
    rw [eq]
    intro d hd
    have hd : d ∈ (made.marked e.id true).live := hd
    rw [live, inv.sound.mem_live_marked he] at hd
    rcases hd with rfl | ⟨hd, -⟩
    · have types : { e with tableCreated := true }.HasDerivedTypes :=
        ⟨(derived e he).some, (derived e he).derived⟩
      refine ⟨types, fun _ => Or.inr ⟨rfl, _, ?_,
        Table.isMadeOf_form.mpr ⟨types, spec, declared, rfl⟩⟩⟩
      show _ ∈ made.tables.map Table.form
      rw [forms]
      exact List.mem_append_right _ (List.mem_singleton_self _)
    · refine ⟨derived d hd, fun had => Or.inl ⟨d, hd, had, .refl d, fun t ht _ => ?_⟩⟩
      show t ∈ made.tables.map Table.form
      rw [forms]
      exact List.mem_append_left _ ht
  · rw [createTable_entities inv (derived e he) created] at gone
    exact absurd rfl (gone e (Database.mem_live.mp he).1)

/-- Every operation that leaves the types of columns open keeps definitions and tables together. -/
theorem Coherent.run (h : Coherent made g) (op : Operation) (leave : LeaveTypes op.fields) :
    Coherent (made.after g (op.run g)) (op.run g) := by
  rcases op.run_cases h.inv with ⟨-, move⟩ | ⟨e, g', -, move, he, first, eq⟩
  · exact h.step (move.inv h.inv) (move.derived h.inv leave h.derived) fun d hd created =>
      Or.inl (move.carries h.inv d hd created)
  · have inv := move.inv h.inv
    have derived := move.derived h.inv leave h.derived
    have tables := makeTable_tables inv he derived
    rw [eq]
    refine h.step (makeTable_inv inv he fun made created => ?_) (fun d hd => (tables d hd).1) ?_
    · exact createTable_entities inv (derived e he) created
    · intro d hd created
      rcases (tables d hd).2 created with carried | ⟨same, fresh⟩
      · exact Or.inl (carried.trans (move.carries h.inv))
      · rw [same]
        exact Or.inr ⟨first, fresh⟩

end Engine

/-- Only what is valid is stored, and a table that is made leaves it as it is. -/
theorem Reached.storedFields (h : Reached g) : ∀ e ∈ g.database.live, e.HasStoredFields := by
  have step : ∀ {g g' : Engine} {op : Operation}, op.Move g g' → g.Inv →
      (∀ e ∈ g.database.live, e.HasStoredFields) →
        ∀ e ∈ g'.database.live, e.HasStoredFields := by
    intro g g' op move inv ih e he
    rcases move.mem_live inv he with he | ⟨valid, id, first, audit, stored⟩
    · exact ih e he
    · exact ⟨_, id, first, audit, valid, stored⟩
  induction h with
  | start baseUrl =>
    intro e he
    cases he
  | @step g op before leaves ih =>
    rcases op.run_cases before.inv with ⟨-, move⟩ | ⟨d, g', makes, move, hd, -, eq⟩
    · exact step move before.inv ih
    · rw [eq]
      intro e he
      have live := Engine.makeTable_live (move.inv before.inv) hd
        (fun made => leaves d g'.database made makes) e he
      rcases live with he | rfl
      · exact step move before.inv ih e he
      · exact step move before.inv ih d hd
  | reload _ _ ih => exact ih

theorem Run.coherent (h : Run made g) : Engine.Coherent made g := by
  induction h with
  | start baseUrl =>
    refine ⟨Engine.start_inv Database.empty_sound Database.empty_tidy baseUrl, ?_, ?_⟩
    · intro e he
      cases he
    · intro e he
      cases he
  | step op _ leave ih => exact ih.run op leave
  | reload baseUrl _ ih =>
    exact ⟨Engine.start_inv ih.inv.sound ih.inv.tidy baseUrl, ih.derived, ih.tables⟩

/-- A definition with a table has the one that was made of it, and no other. -/
theorem Run.table (h : Run made g) {e : Entity} (he : e ∈ g.database.live)
    (created : e.tableCreated = true) : ∃ d t, made e.id = some d ∧ d.Precedes e ∧
      g.database.table? e.table = some t ∧ t.IsMadeOf d := by
  obtain ⟨d, known, precedes, t, ht, own⟩ := h.coherent.tables e he created
  obtain ⟨u, hu, rfl⟩ := List.mem_map.mp ht
  have own := Table.isMadeOf_form.mp own
  have found := h.coherent.inv.tidy.table?_of_mem hu
  rw [own.name, precedes.table] at found
  exact ⟨d, u, known, precedes, found, own⟩

/-- In every run that leaves the types of columns open, a definition with a table has one, and that
table has the columns and the primary key of the definition as it was when the table was made. So it
fits the definition as it is now exactly if no field was added, dropped, renamed or moved since and
the keys are the same, and always if the version is; and then no statement on the rows of the entity
names a column that the table does not have. -/
theorem table_fits_making (h : Run made g) {e : Entity} (he : e ∈ g.database.live)
    (created : e.tableCreated = true) :
    ∃ d t, made e.id = some d ∧ d.Precedes e ∧ g.database.table? e.table = some t ∧ t.Fits d ∧
      (t.Fits e ↔ e.columns.map Text.fold = d.columns.map Text.fold ∧
        e.primaryKey.map Text.fold = d.primaryKey.map Text.fold) ∧
      (d.version = e.version → t.Fits e) ∧ (t.Fits e → t.Serves e) := by
  obtain ⟨d, t, known, precedes, found, own⟩ := h.table he created
  have fits := own.fits
  have iff : t.Fits e ↔ e.columns.map Text.fold = d.columns.map Text.fold ∧
      e.primaryKey.map Text.fold = d.primaryKey.map Text.fold := by
    constructor
    · intro now
      exact ⟨now.columns.symm.trans fits.columns, now.primary.symm.trans fits.primary⟩
    · rintro ⟨columns, primary⟩
      exact ⟨fits.columns.trans columns.symm, fits.primary.trans primary.symm⟩
  refine ⟨d, t, known, precedes, found, fits, iff, fun same => ?_, Table.Fits.serves⟩
  have layout : d.layout = e.layout := congrArg EntityKind.layout precedes.kind
  rw [iff, Entity.columns, Entity.columns, Entity.primaryKey, Entity.primaryKey, Entity.keys,
    Entity.keys, layout, precedes.fields same]
  exact ⟨rfl, rfl⟩

/-! ### Fields replaced under a table -/

/-- Goods by their number, in a table that is made at once. -/
def declareGoods : Operation :=
  .createEntity
    { appId := 1
      name := "Goods"
      table := "goods"
      code := some "goods"
      kind := .static
      fields := [{ name := "sku", type := .integer, isKey := true }]
      autoCreate := true }
    "a" ⟨⟨0, 0⟩, "r", "c"⟩

/-- The key field, under another name. -/
def renameKey : Operation :=
  .replaceFields 1 [{ name := "code", type := .integer, isKey := true }] "a" ⟨⟨0, 0⟩, "r", "c"⟩

/-- The goods once their key field is renamed. -/
def renamedGoods : Engine := renameKey.run (declareGoods.run (.start .empty ""))

theorem run_renamedGoods : ∃ made, Run made renamedGoods := by
  have first : LeaveTypes declareGoods.fields := by
    intro f hf
    rw [List.mem_singleton.mp hf]
    rfl
  have second : LeaveTypes renameKey.fields := by
    intro f hf
    rw [List.mem_singleton.mp hf]
    rfl
  exact ⟨_, .step renameKey (.step declareGoods (.start "") first) second⟩

theorem renamedGoods_misses :
    (renamedGoods.database.entity? 1).any (fun e => e.tableCreated && e.columns.contains "code" &&
      (renamedGoods.database.table? e.table).all fun t => !t.hasColumn "code") = true := by
  decide +kernel

theorem exists_renamedGoods : ∃ e ∈ renamedGoods.database.live, e.tableCreated = true ∧
    "code" ∈ e.columns ∧ ∀ t, renamedGoods.database.table? e.table = some t →
      t.hasColumn "code" = false := by
  have found := renamedGoods_misses
  rw [Option.any_eq_true] at found
  obtain ⟨e, found, facts⟩ := found
  rw [Bool.and_eq_true, Bool.and_eq_true] at facts
  obtain ⟨⟨created, declared⟩, missing⟩ := facts
  refine ⟨e, List.mem_of_find?_eq_some found, created, by simpa using declared, ?_⟩
  intro t ht
  rw [ht] at missing
  simpa using missing

/-- The table keeps its old key, and statements on its rows name a column that it does not have. -/
theorem renamed_key_unserved : ∃ made, Run made renamedGoods ∧
    ∃ e ∈ renamedGoods.database.live, e.tableCreated = true ∧
      ∃ t, renamedGoods.database.table? e.table = some t ∧ ¬ t.Fits e ∧ ¬ t.Serves e := by
  obtain ⟨made, run⟩ := run_renamedGoods
  obtain ⟨e, he, created, declared, missing⟩ := exists_renamedGoods
  obtain ⟨-, t, -, -, found, -⟩ := run.table he created
  have unserved : ¬ t.Serves e := by
    intro serves
    have there := serves.shown "code" declared
    rw [missing t found] at there
    cases there
  exact ⟨made, run, e, he, created, t, found, fun fits => unserved fits.serves, unserved⟩

theorem table_fits_making_goods : ∃ made, Run made renamedGoods ∧
    ∃ e ∈ renamedGoods.database.live, e.tableCreated = true ∧
      ∃ d t, made e.id = some d ∧ renamedGoods.database.table? e.table = some t ∧ t.Fits d := by
  obtain ⟨made, run⟩ := run_renamedGoods
  obtain ⟨e, he, created, -⟩ := exists_renamedGoods
  obtain ⟨d, t, known, -, found, fits, -⟩ := table_fits_making run he created
  exact ⟨made, run, e, he, created, d, t, known, found, fits⟩

end EntityEngine
