import EntityEngine.Proofs.Engine.Retention
import EntityEngine.Proofs.Store.Stamps

/-! Runs whose clock never runs backwards, with the order in which the records of one place were
stored there. The documents always stand in that order, and so do the rows of a template. -/

namespace EntityEngine

open Store Time

/-! ### Places and orders -/

/-- Where records are kept: among the documents, or in the table of a name. -/
inductive Place where
  | documents
  | table (name : String)

/-- Where the records of a definition are kept. -/
def Entity.place (e : Entity) : Place := if e.tableCreated then .table e.table else .documents

/-- The numbers of the records in a place, as they stand there. -/
def Store.Database.numbers (db : Database) : Place → List Int
  | .documents => db.documents.map Record.id
  | .table name => (((db.table? name).map Table.rows).getD []).map Row.number

/-- The order of records once others are there: those that are gone are left out, and those that
were not there before come last. -/
def renewed (order numbers : List Int) : List Int :=
  order.filter (· ∈ numbers) ++ numbers.filter (· ∉ order)

theorem filter_mem_of_sublist {less all : List Int} (once : all.Nodup) (h : less.Sublist all) :
    all.filter (· ∈ less) = less := by
  induction h with
  | slnil => rfl
  | @cons less all n h ih =>
    obtain ⟨other, once⟩ := List.nodup_cons.mp once
    rw [List.filter_cons_of_neg (by simpa using fun mem => other (h.subset mem)), ih once]
  | @cons_cons less all n h ih =>
    obtain ⟨other, once⟩ := List.nodup_cons.mp once
    rw [List.filter_cons_of_pos (by simp)]
    have others : all.filter (· ∈ n :: less) = all.filter (· ∈ less) := by
      refine List.filter_congr fun m hm => ?_
      have ne : m ≠ n := fun same => other (same ▸ hm)
      simp [ne]
    rw [others, ih once]

theorem renewed_of_sublist {less all : List Int} (once : all.Nodup) (h : less.Sublist all) :
    renewed all less = less := by
  have none : less.filter (· ∉ all) = [] :=
    List.filter_eq_nil_iff.mpr fun n hn => by simpa using h.subset hn
  rw [renewed, filter_mem_of_sublist once h, none, List.append_nil]

theorem renewed_append {all : List Int} {n : Int} (new : ∀ m ∈ all, m < n) :
    renewed all (all ++ [n]) = all ++ [n] := by
  have stay : all.filter (· ∈ all ++ [n]) = all :=
    List.filter_eq_self.mpr fun m hm => by simp [hm]
  have old : all.filter (· ∉ all) = [] := List.filter_eq_nil_iff.mpr fun m hm => by simp [hm]
  have last : n ∉ all := fun mem => Int.lt_irrefl n (new n mem)
  rw [renewed, stay, List.filter_append, old, List.nil_append, List.filter_singleton]
  simp [last]

namespace Store

variable {now later : Instant} {grows : Prop} {old new : List (Int × Sql.Value)}

theorem Chronological.nodup (h : Chronological now old) : (old.map Prod.fst).Nodup :=
  List.pairwise_map.mpr (h.ordered.imp fun apart => Int.ne_of_lt apart.1)

/-- Records that follow others are in the order of those. -/
theorem Follows.renewed (step : Follows later grows old new) (h : Chronological now old) :
    renewed (old.map Prod.fst) (new.map Prod.fst) = new.map Prod.fst := by
  cases step with
  | fewer less => exact renewed_of_sublist h.nodup (less.map _)
  | more _ last =>
    rw [List.map_append, List.map_singleton]
    refine renewed_append fun m hm => ?_
    obtain ⟨x, hx, rfl⟩ := List.mem_map.mp hm
    exact last x hx

end Store

/-! ### Runs -/

namespace Operation

/-- The time that an operation reads. -/
def now? : Operation → Option Instant
  | createEntity _ _ ambient | replaceFields _ _ _ ambient | deleteEntity _ _ _ ambient
  | createRecord _ _ _ _ ambient | updateRecord _ _ _ ambient
  | updateRecordByKey _ _ _ _ ambient => some ambient.now
  | _ => none

/-- An operation that may happen where the order of a place is looked at. Among documents, no text
holds further statements. For a table, types of columns are left open, and records are written while
no field without a column has a name for the numbers of rows. -/
def Suits (op : Operation) (g : Engine) : Place → Prop
  | .documents => op.IsPlain g
  | .table name => LeaveTypes op.fields ∧ ∀ e ∈ g.database.live, e.tableCreated = true →
      Text.sameFold e.table name = true → ∀ statement, op.Writes e statement →
        ∀ t, g.database.table? e.table = some t → t.KeepsNumbers e

end Operation

/-- The runs whose clock never runs backwards, with the time that they have come to, and the records
of a place in the order in which they were stored there. -/
inductive Dated (p : Place) : Instant → List Int → Engine → Prop
  | start (now : Instant) (baseUrl : String) : Dated p now [] (Engine.start .empty baseUrl)
  | step {now later : Instant} {order : List Int} {g : Engine} (op : Operation) :
      Dated p now order g → op.Suits g p → now ≤ later → later.IsCommon →
      (∀ t, op.now? = some t → t = later) →
      Dated p later (renewed order ((op.run g).database.numbers p)) (op.run g)
  | reload {now : Instant} {order : List Int} {g : Engine} (baseUrl : String) :
      Dated p now order g → Dated p now order (Engine.start g.database baseUrl)

variable {g g' : Engine} {now later : Instant} {order : List Int} {name : String}

theorem Dated.plainRun (h : Dated .documents now order g) : PlainRun g := by
  induction h with
  | start _ baseUrl => exact .start baseUrl
  | step op _ suits _ _ _ ih => exact .step op ih suits
  | reload baseUrl _ ih => exact .reload baseUrl ih

theorem Dated.run (h : Dated (.table name) now order g) : ∃ made, Run made g := by
  induction h with
  | start _ baseUrl => exact ⟨_, .start baseUrl⟩
  | step op _ suits _ _ _ ih =>
    obtain ⟨made, run⟩ := ih
    exact ⟨_, .step op run suits.1⟩
  | reload baseUrl _ ih =>
    obtain ⟨made, run⟩ := ih
    exact ⟨_, .reload baseUrl run⟩

/-! ### Documents -/

theorem Operation.stored_of_adds {op : Operation} (reads : ∀ t, op.now? = some t → t = later)
    {r : Record} (adds : op.Adds r) :
    r.audit.createdAt.stored = later.stored := by
  cases op with
  | createRecord appId code values actor ambient =>
    have time : ambient.now = later := reads _ rfl
    rw [adds.2.2, time, Instant.stored_toMicros]
  | _ => exact adds.elim

theorem Dated.documents (h : Dated .documents now order g) :
    Chronological now (g.database.documents.map Database.documentEntry) ∧
      order = g.database.documents.map Record.id := by
  induction h with
  | start now _ => exact ⟨.nil now, rfl⟩
  | @step now later order g op before suits le common reads ih =>
    obtain ⟨chronological, rfl⟩ := ih
    have run := before.plainRun
    have follows := ((op.run_documents run.reached.inv run.owned suits).1).follows run.owned
      fun r adds => Operation.stored_of_adds reads adds
    refine ⟨chronological.follows le common follows, ?_⟩
    have numbers := follows.renewed chronological
    rw [List.map_map, List.map_map] at numbers
    exact numbers
  | reload _ _ ih => exact ih

/-! ### Rows -/

theorem Run.storedFields {made : Makings} (h : Run made g) :
    ∀ e ∈ g.database.live, e.HasStoredFields := h.plainRun.reached.storedFields

theorem Entity.HasStoredFields.ownNames {e : Entity} (h : e.HasStoredFields) : e.HasOwnNames := by
  obtain ⟨fields, id, first, audit, valid, stored⟩ := h
  exact .of_stored valid stored

theorem Run.ownNames {made : Makings} (h : Run made g) :
    ∀ e ∈ g.database.live, e.HasOwnNames := fun e he => (h.storedFields e he).ownNames

/-- What an operation makes of the table of a name: nothing; it is dropped, or made without rows; or
the statement of a definition with that table is carried out on its rows. -/
inductive Operation.TableMove (op : Operation) (g : Engine) (name : String) : Option Table → Prop
  | same : TableMove op g name (g.database.table? name)
  | gone : TableMove op g name none
  | made {t : Table} (empty : t.rows = []) : TableMove op g name (some t)
  | written {e : Entity} {statement : Statement} {database : Database} (he : e ∈ g.database.live)
      (created : e.tableCreated = true) (own : Text.sameFold e.table name = true)
      (act : op.Writes e statement) (write : g.database.RowWrite name statement database) :
      TableMove op g name (database.table? name)

theorem Operation.Move.table {op : Operation} (move : op.Move g g') (inv : g.Inv)
    (simple : g.database.IsSimple) (name : String) :
    op.TableMove g name (g'.database.table? name) := by
  have same : g'.database.table? name = g.database.table? name →
      op.TableMove g name (g'.database.table? name) := by
    intro eq
    rw [eq]
    exact .same
  cases move with
  | records step =>
    cases step with
    | none => exact .same
    | @rows e statement database he created act _ write =>
      cases own : Text.sameFold e.table name with
      | true => exact .written he created own act ((write simple).of_sameFold own)
      | false =>
        rw [Text.sameFold_comm] at own
        exact same ((write simple).table?_other inv.tidy own)
    | documents frame _ => exact same (congrArg (List.find? _) frame.tables)
  | created _ _ c => exact same (congrArg (List.find? _) c.tables)
  | replaced _ r _ => exact same (congrArg (List.find? _) r.tables)
  | deleted _ _ _ => exact .same
  | @dropped e change dropped _ _ _ d =>
    cases own : Text.sameFold name e.table with
    | true =>
      obtain ⟨emptied, -, tables⟩ := d.tables simple
      have none : dropped.table? name = Option.none := by
        rw [Database.table?_congr own, Database.table?, tables, List.find?_filter]
        exact List.find?_eq_none.mpr fun t _ => by simp
      show op.TableMove g name (dropped.table? name)
      rw [none]
      exact .gone
    | false => exact same (d.table?_other (inv.tidy.of_names rfl rfl) simple own)

/-- Making a table adds one without rows, if it adds one. -/
theorem Engine.makeTable_table (inv : g.Inv) {e : Entity} (derived : e.HasDerivedTypes)
    (name : String) :
    (g.makeTable e).2.database.table? name = g.database.table? name ∨
      ∃ t : Table, (g.makeTable e).2.database.table? name = some t ∧ t.rows = [] := by
  have beside : ∀ made, g.database.createTable e = .ok made →
      made.table? name = g.database.table? name ∨
        ∃ t : Table, made.table? name = some t ∧ t.rows = [] := by
    intro made created
    obtain ⟨spec, further, -, -, tables⟩ :=
      (Database.made_of_createTable inv.tidy created).tables (Entity.further_tableText derived)
    rw [Database.table?, Database.table?, tables, List.find?_append, List.find?_singleton]
    cases g.database.tables.find? fun t => Text.sameFold t.name name with
    | some t => exact Or.inl rfl
    | none =>
      split
      · exact Or.inr ⟨_, rfl, rfl⟩
      · exact Or.inl rfl
  rcases makeTable_cases g e with ⟨-, eq⟩ | ⟨made, created, ⟨-, eq⟩ | ⟨-, eq⟩⟩
  · rw [eq]
    exact Or.inl rfl
  · rw [eq]
    exact beside made created
  · rw [eq]
    exact beside made created

theorem Run.tableMove {made : Makings} (h : Run made g) (op : Operation)
    (leave : LeaveTypes op.fields) (name : String) :
    op.TableMove g name ((op.run g).database.table? name) := by
  have inv := h.coherent.inv
  rcases op.run_cases inv with ⟨-, move⟩ | ⟨d, g', -, move, hd, -, eq⟩
  · exact move.table inv h.built.simple name
  · have derived := move.derived inv leave h.coherent.derived d hd
    rw [eq]
    rcases Engine.makeTable_table (move.inv inv) derived name with same | ⟨t, there, empty⟩
    · rw [same]
      exact move.table inv h.built.simple name
    · rw [there]
      exact .made empty

/-- What holds of a table without rows, and is kept by the statements on its rows, holds of the table
of a name in every state of a run. -/
theorem Run.table_invariant {made : Makings} {P : Table → Prop}
    (empty : ∀ t : Table, t.rows = [] → P t)
    (kept : ∀ {made : Makings} {g : Engine} {op : Operation} {e : Entity} {statement : Statement}
      {database : Database}, Run made g → op.Writes e statement →
        g.database.RowWrite name statement database →
          (∀ t, g.database.table? name = some t → P t) → ∀ t, database.table? name = some t → P t)
    (h : Run made g) : ∀ t, g.database.table? name = some t → P t := by
  induction h with
  | start _ => exact fun t there => nomatch there
  | reload _ _ ih => exact ih
  | step op run leave ih =>
    intro u there
    have move := run.tableMove op leave name
    rw [there] at move
    generalize found : some u = after at move
    cases move with
    | same => exact ih u found.symm
    | gone => cases found
    | made none =>
      rw [Option.some.inj found]
      exact empty _ none
    | written _ _ _ act write => exact kept run act write ih u found.symm

/-- What is known of the table of a name in a run: the rows of a template stand in the order in
which they were stored. -/
structure IsInOrder (now : Instant) (order : List Int) (found : Option Table) : Prop where
  rows : ∀ t m, found = some t → t.IsBuiltFrom m → m.layout = .template →
    t.IsChronicle now ∧ order = t.rows.map Row.number
  absent : found = none → order = []

/-- What the statement of a definition writes in its table. -/
theorem Operation.Writes.stamps {op : Operation} {e m : Entity} {statement : Statement}
    {t : Table} (act : op.Writes e statement) (reads : ∀ t, op.now? = some t → t = later)
    (built : t.IsBuiltFrom m) (template : m.layout = .template) (layout : e.layout = .template)
    (own : e.HasOwnNames) (keeps : t.KeepsNumbers e) : statement.Stamps t later := by
  cases op with
  | createRecord appId code values actor ambient =>
    obtain ⟨-, data, -, rfl⟩ := act
    have time : ambient.now = later := reads _ rfl
    rw [← time]
    exact built.stamps_newValues template layout own keeps data ambient
  | updateRecordByKey entityId key values actor ambient =>
    obtain ⟨-, data, -, rfl⟩ := act
    exact built.stamps_rowChanges template layout own keeps data ambient later
  | deleteRecordByKey entityId key =>
    obtain ⟨-, rfl⟩ := act
    trivial
  | _ => exact act.elim

theorem Dated.rows (h : Dated (.table name) now order g) :
    IsInOrder now order (g.database.table? name) := by
  induction h with
  | start now _ => exact ⟨fun t m found => (nomatch found), fun _ => rfl⟩
  | reload _ _ ih => exact ih
  | @step now later order g op before suits le common reads ih =>
    obtain ⟨made, run⟩ := before.run
    have inv := run.coherent.inv
    have move := run.tableMove op suits.1 name
    rw [Database.numbers]
    generalize (op.run g).database.table? name = found at move
    cases move with
    | gone => exact ⟨fun t m found => (nomatch found), fun _ => by simp [renewed]⟩
    | @made t empty =>
      refine ⟨fun u m found _ _ => ?_, fun none => (nomatch none)⟩
      obtain rfl := Option.some.inj found
      refine ⟨⟨?_, ?_⟩, ?_⟩
      · rw [Table.entries, empty]
        exact .nil later
      · rw [empty]
        exact fun r hr => absurd hr List.not_mem_nil
      · simp [empty, renewed]
    | same =>
      constructor
      · intro t m found built template
        obtain ⟨chronicle, rfl⟩ := ih.rows t m found built template
        refine ⟨⟨chronicle.entries.mono le, chronicle.numbers⟩, ?_⟩
        have once := chronicle.entries.nodup
        rw [Table.fst_entries] at once
        rw [found]
        exact renewed_of_sublist once (List.Sublist.refl _)
      · intro none
        rw [none, ih.absent none]
        rfl
    | @written e statement database he created own act write =>
      have bare := write.map_bare_table? inv.tidy name
      constructor
      · intro u m found built template
        rw [found] at bare
        obtain ⟨t, there, bare⟩ := Option.map_eq_some_iff.mp bare.symm
        have builtBefore : t.IsBuiltFrom m := built.of_bare bare
        obtain ⟨chronicle, rfl⟩ := ih.rows t m there builtBefore template
        -- The definition at work is one of a template, for the table is.
        have meant : g.database.table? e.table = some t := (Database.table?_congr own).trans there
        obtain ⟨t', there', -, d, ofDefinition, layout⟩ := run.builtTable he created
        obtain rfl := Option.some.inj (there'.symm.trans meant)
        have ofTemplate : e.layout = .template :=
          layout.symm.trans ((ofDefinition.isMadeOf.layout_eq builtBefore.isMadeOf).trans template)
        have stamps := act.stamps reads builtBefore template ofTemplate (run.ownNames e he)
          (suits.2 e he created own statement act t' meant)
        obtain ⟨v, found', follows, numbers⟩ := write.follows inv.tidy
          (fun t ht => (run.built t ht).1) there builtBefore template chronicle stamps
        obtain rfl := Option.some.inj (found'.symm.trans found)
        refine ⟨⟨chronicle.entries.follows le common follows, numbers⟩, ?_⟩
        have order := follows.renewed chronicle.entries
        rw [Table.fst_entries, Table.fst_entries] at order
        rw [found]
        exact order
      · intro none
        rw [none] at bare
        rw [none, ih.absent (Option.map_eq_none_iff.mp bare.symm)]
        rfl

end EntityEngine
