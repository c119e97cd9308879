import EntityEngine.Proofs.Engine.Chronology
import EntityEngine.Proofs.Engine.Making
import EntityEngine.Proofs.Query.Pages

/-! Queries and lists in pages. Without an order, the pages of the records of a definition make up
all that meet the filter, the one that was stored last first, each on one page. -/

namespace EntityEngine

open Number Sql Store

/-! ### Records by their numbers -/

section

variable {α : Type}

/-- What is shown of the row with a number, if that row is kept. -/
def pick (rows : List α) (f : α → Int) (keep : α → Bool) (item : α → StoredRecord) (n : Int) :
    Option StoredRecord :=
  ((rows.find? fun r => f r = n).filter keep).map item

variable {rows : List α} {f : α → Int} {keep : α → Bool} {item : α → StoredRecord}

theorem pick_of_mem (once : (rows.map f).Nodup) {r : α} (hr : r ∈ rows) :
    pick rows f keep item (f r) = if keep r then some (item r) else none := by
  have found : rows.find? (fun s => f s = f r) = some r :=
    find?_of_only hr (by simp) fun s hs same =>
      List.inj_on_of_nodup_map once hs hr (by simpa using same)
  rw [pick, found, Option.filter_some]
  split <;> rfl

/-- Numbers in the order of rows pick those that are kept, in their order. -/
theorem filterMap_pick (once : (rows.map f).Nodup) :
    (rows.map f).filterMap (pick rows f keep item) = (rows.filter keep).map item := by
  rw [List.filterMap_map, ← List.filterMap_eq_map', ← List.filterMap_eq_filter,
    List.filterMap_filterMap]
  refine List.filterMap_congr fun r hr => ?_
  rw [Function.comp_apply, pick_of_mem once hr]
  cases kept : keep r <;> simp [Option.guard, kept]

theorem pick_none_iff (once : (rows.map f).Nodup) :
    (∀ n, pick rows f keep item n = none) ↔ ∀ r ∈ rows, keep r = false := by
  constructor
  · intro none r hr
    have none := none (f r)
    rw [pick_of_mem once hr] at none
    simpa using none
  · intro gone n
    rw [pick, Option.map_eq_none_iff, Option.filter_eq_none_iff]
    intro r found
    simpa using gone r (List.mem_of_find?_eq_some found)

theorem mem_of_pick {n : Int} (there : (pick rows f keep item n).isSome = true) :
    n ∈ rows.map f := by
  rw [pick, Option.isSome_map] at there
  cases found : rows.find? fun r => f r = n with
  | none =>
    rw [found] at there
    cases there
  | some r =>
    have same : f r = n := by simpa using List.find?_some found
    exact List.mem_map.mpr ⟨r, List.mem_of_find?_eq_some found, same⟩

end

/-- A record as a query shows it. -/
def StoredRecord.shown (e : Entity) : StoredRecord → ValueMap
  | document r => r.row e
  | row values => values

namespace Engine

variable {g : Engine} {e : Entity} {filter : Option Filter}

/-- The record of a definition with a number, if it meets a filter. -/
def stored? (g : Engine) (e : Entity) (filter : Option Filter) (number : Int) :
    Option StoredRecord :=
  if e.tableCreated then
    (g.database.table? e.table).bind fun t =>
      ((t.row? number).filter fun row =>
        (t.reader row).satisfiesAll (Query.conditions e filter)).map fun row =>
          .row (t.shown e row)
  else
    ((g.database.document? number).filter fun r =>
      (documentReader r).satisfiesAll (Query.conditions e filter)).map fun r =>
        .document (readBack r)

theorem stored?_documents (unmade : e.tableCreated = false) :
    g.stored? e filter = pick g.database.documents Record.id
      (fun r => (documentReader r).satisfiesAll (Query.documentConditions e filter))
      fun r => .document (readBack r) := by
  funext n
  simp only [stored?, Query.conditions, unmade, Bool.false_eq_true, if_false]
  rfl

theorem stored?_rows (created : e.tableCreated = true) {t : Table}
    (there : g.database.table? e.table = some t) :
    g.stored? e filter = pick t.rows Row.number
      (fun row => (t.reader row).satisfiesAll (Query.columnConditions e filter))
      fun row => .row (t.shown e row) := by
  funext n
  simp only [stored?, Query.conditions, created, if_true, there]
  rfl

/-! ### What can be asked -/

/-- No pattern of a filter is too long, unless there are no records to hold it against. -/
def CanAsk (g : Engine) (e : Entity) (filter : Option Filter) : Prop :=
  (∀ c ∈ Query.conditions e filter, c.isTooLong = false) ∨ ∀ n, g.stored? e none n = none

/-- One more condition can be looked at if its pattern is short, or if no row comes to it. -/
theorem matchFault?_append_none_iff {α : Type} (before : List Condition) {after : List Condition}
    {read : α → Reader} {rows : List α} (short : ∀ c ∈ before, c.isTooLong = false)
    (few : after.length ≤ 1) :
    matchFault? (before ++ after) read rows = none ↔
      (∀ c ∈ before ++ after, c.isTooLong = false) ∨
        ∀ r ∈ rows, (read r).satisfiesAll before = false := by
  have first : before.findIdx? Condition.isTooLong = none := List.findIdx?_eq_none_iff.mpr short
  rw [matchFault?, ← List.findIdx?_eq_none_iff, List.findIdx?_append, first, Option.none_or]
  cases found : after.findIdx? Condition.isTooLong with
  | none => simp
  | some i =>
    obtain ⟨bound, -⟩ := List.findIdx?_eq_some_iff_getElem.mp found
    obtain rfl : i = 0 := by omega
    simp

/-- Every document of the entity comes to the condition of a filter. -/
theorem canAsk_documents (once : (g.database.documents.map Record.id).Nodup)
    (unmade : e.tableCreated = false) :
    matchFault? (Query.documentConditions e filter) documentReader g.database.documents = none ↔
      g.CanAsk e filter := by
  have none : (∀ n, g.stored? e none n = none) ↔
      ∀ r ∈ g.database.documents, (documentReader r).satisfiesAll (Query.scope e) = false := by
    rw [stored?_documents unmade, pick_none_iff once]
    simp [Query.documentConditions]
  rw [CanAsk, none, Query.conditions, unmade]
  exact matchFault?_append_none_iff _ (by simp [Query.scope, Condition.isTooLong])
    (by cases filter <;> simp)

theorem canAsk_rows (created : e.tableCreated = true) {t : Table}
    (there : g.database.table? e.table = some t) (once : (t.rows.map Row.number).Nodup) :
    t.matchFault? (Query.columnConditions e filter) = none ↔ g.CanAsk e filter := by
  have none : (∀ n, g.stored? e none n = none) ↔
      ∀ r ∈ t.rows, (t.reader r).satisfiesAll [] = false := by
    rw [stored?_rows created there, pick_none_iff once]
    rfl
  have few : (Query.columnConditions e filter).length ≤ 1 := by
    cases filter with
    | none => simp [Query.columnConditions]
    | some f => cases found : e.column? f.field <;> simp [Query.columnConditions, found]
  rw [CanAsk, none, Query.conditions, created]
  exact matchFault?_append_none_iff [] (by simp) few

end Engine

/-! ### The newest first -/

section

variable {now : Time.Instant} {order : List Int} {g : Engine} {e : Entity} {o : QueryOptions}
  {offset : Nat}

/-- The records of a definition that meet a filter, the one that was stored last first. -/
def Engine.newest (g : Engine) (e : Entity) (order : List Int) (filter : Option Filter) :
    List StoredRecord :=
  order.reverse.filterMap (g.stored? e filter)

/-- The answer of a query is a part of all records that meet its filter. -/
def Engine.Answers (g : Engine) (e : Entity) (order : List Int) (o : QueryOptions)
    (offset : Nat) : Prop :=
  ∃ result, (g.query e.appId e.code o).1 = .ok result ∧
    result.rows = (slice o.top offset (g.newest e order o.filter)).map (fun s =>
      o.project (s.shown e)) ∧
    result.count = if o.count then some (g.newest e order o.filter).length else none

theorem Engine.Answers.of_found (inv : g.Inv) (he : e ∈ g.database.live) {page : Page ValueMap}
    (found : g.foundRows e e.code o = .ok page)
    (items : page.items = (slice o.top offset (g.newest e order o.filter)).map fun s => s.shown e)
    (total : page.total = if o.count then some (g.newest e order o.filter).length else none) :
    g.Answers e order o offset := by
  refine ⟨{
    context := g.contextOf e.code
    rows := page.items.map o.project
    count := if o.count then page.total else none
    stats := if o.stats then some (Stats.aggregate page.items e.fields) else none }, ?_, ?_, ?_⟩
  · simp only [query, inv.resolve_live he, found]
    rfl
  · show page.items.map o.project = _
    rw [items, List.map_map]
    rfl
  · show (if o.count then page.total else none) = _
    rw [total]
    cases o.count <;> rfl

theorem Dated.newest_documents (h : Dated .documents now order g) (unmade : e.tableCreated = false)
    (filter : Option Filter) : g.newest e order filter =
      (g.database.selectDocuments (Query.documentConditions e filter) Query.documentOrder).map
        fun r => .document (readBack r) := by
  obtain ⟨chronological, rfl⟩ := h.documents
  rw [Engine.newest, List.filterMap_reverse, Engine.stored?_documents unmade,
    filterMap_pick h.plainRun.owned.ids, Database.selectDocuments_newest chronological,
    List.map_reverse]
  rfl

theorem Dated.query_documents (h : Dated .documents now order g) (he : e ∈ g.database.live)
    (unmade : e.tableCreated = false) (plain : o.orderBy = []) (paged : o.offset = .ok offset)
    (small : offset ≤ maxNat32) (can : g.CanAsk e o.filter) : g.Answers e order o offset := by
  have answers := (Engine.canAsk_documents h.plainRun.owned.ids unmade).mpr can
  have queried := Database.queryRecords_newest plain paged small answers
  have found : g.foundRows e e.code o = (during ("query records of entity " ++ e.code)
      (g.database.queryRecords e o)).map fun p =>
        { items := p.items.map fun r => r.row e, total := p.total } := by
    rw [Engine.foundRows, unmade, if_neg Bool.false_ne_true]
  rw [queried] at found
  refine .of_found h.plainRun.reached.inv he found ?_ ?_
  · rw [h.newest_documents unmade, slice_map, List.map_map]
    exact List.map_map
  · rw [h.newest_documents unmade, List.length_map]

/-- The table of a template that stands in order. -/
theorem Dated.table (h : Dated (.table e.table) now order g) (he : e ∈ g.database.live)
    (created : e.tableCreated = true) (template : e.layout = .template) :
    ∃ t, g.database.table? e.table = some t ∧ g.database.needTable e.table = .ok t ∧
      (t.rows.map Row.number).Nodup ∧ order = t.rows.map Row.number ∧
        ∀ filter, g.newest e order filter = (t.select e.columns (Query.columnConditions e filter)
          (Query.tableOrder .template)).map fun row => .row (t.shown e row) := by
  obtain ⟨made, run⟩ := h.run
  obtain ⟨t, there, -, m, built, layout⟩ := run.builtTable he created
  obtain ⟨chronicle, rfl⟩ := h.rows.rows t m there built (layout.trans template)
  have inv := run.coherent.inv
  have once := chronicle.entries.nodup
  rw [Table.fst_entries] at once
  refine ⟨t, there, (Database.needTable_iff inv.tidy (inv.sound.named e he)).mpr there, once, rfl,
    fun filter => ?_⟩
  rw [Engine.newest, List.filterMap_reverse, Engine.stored?_rows created there,
    filterMap_pick once, built.select_newest (layout.trans template) chronicle, List.map_reverse]
  rfl

theorem Dated.query_rows (h : Dated (.table e.table) now order g) (he : e ∈ g.database.live)
    (created : e.tableCreated = true) (template : e.layout = .template) (plain : o.orderBy = [])
    (paged : o.offset = .ok offset) (small : offset ≤ maxNat32) (can : g.CanAsk e o.filter) :
    g.Answers e order o offset := by
  obtain ⟨made, run⟩ := h.run
  obtain ⟨t, there, needed, once, rfl, newest⟩ := h.table he created template
  have answers := (Engine.canAsk_rows created there once).mpr can
  have queried := Database.queryRows_newest plain paged small needed answers
  rw [template] at queried
  have found : g.foundRows e e.code o =
      during ("query table " ++ e.table) (g.database.queryRows e o) := by
    rw [Engine.foundRows, created, if_pos rfl]
  rw [queried] at found
  refine .of_found run.coherent.inv he found ?_ ?_
  · rw [newest, slice_map, List.map_map]
    rfl
  · rw [newest, List.length_map, Table.length_select]

/-! ### Refused patterns -/

theorem Dated.refused_documents (h : Dated .documents now order g) (he : e ∈ g.database.live)
    (unmade : e.tableCreated = false) (paged : o.offset = .ok offset)
    (cannot : ¬ g.CanAsk e o.filter) : ∃ f, (g.query e.appId e.code o).1 = .error f := by
  rw [← Engine.canAsk_documents h.plainRun.owned.ids unmade, ← ne_eq,
    Option.ne_none_iff_exists'] at cannot
  obtain ⟨fault, refused⟩ := cannot
  obtain ⟨plan, planned, conditions⟩ : ∃ plan, Query.overDocuments e o = .ok plan ∧
      plan.conditions = Query.documentConditions e o.filter :=
    ⟨_, by rw [Query.overDocuments, paged]; rfl, rfl⟩
  have queried : g.database.queryRecords e o = .error (.database fault) := by
    simp only [Database.queryRecords, planned, Except.mapError, bind, Except.bind, conditions,
      refused]
    rfl
  simp only [Engine.query, h.plainRun.reached.inv.resolve_live he, Engine.foundRows, unmade,
    queried]
  exact ⟨_, rfl⟩

theorem Dated.refused_rows (h : Dated (.table e.table) now order g) (he : e ∈ g.database.live)
    (created : e.tableCreated = true) (template : e.layout = .template)
    (paged : o.offset = .ok offset) (cannot : ¬ g.CanAsk e o.filter) :
    ∃ f, (g.query e.appId e.code o).1 = .error f := by
  obtain ⟨made, run⟩ := h.run
  obtain ⟨t, there, needed, once, -⟩ := h.table he created template
  rw [← Engine.canAsk_rows created there once, ← ne_eq, Option.ne_none_iff_exists'] at cannot
  obtain ⟨fault, refused⟩ := cannot
  obtain ⟨plan, planned, conditions⟩ : ∃ plan, Query.overTable e o = .ok plan ∧
      plan.conditions = Query.columnConditions e o.filter :=
    ⟨_, by rw [Query.overTable, paged]; rfl, rfl⟩
  have queried : g.database.queryRows e o = .error (.database fault) := by
    simp only [Database.queryRows, planned, Except.mapError, bind, Except.bind, needed, conditions,
      refused]
    rfl
  simp only [Engine.query, run.coherent.inv.resolve_live he, Engine.foundRows, created, queried]
  exact ⟨_, rfl⟩

/-! ### Lists -/

theorem Dated.list_documents (h : Dated .documents now order g) (he : e ∈ g.database.live)
    (unmade : e.tableCreated = false) {page size : Nat} (first : 0 < page) (some : 0 < size)
    (small : (page - 1) * size ≤ maxNat32) : (g.listRecords e.appId e.code page size).1 =
      .ok (slice size ((page - 1) * size) (g.newest e order none)) := by
  have before : multiply64 (page - 1 : Nat) size = .ok ((page - 1) * size : Nat) := by
    have fits : ∀ n : Nat, n ≤ maxNat32 → inInt64 n = true := by
      intro n small
      unfold maxNat32 at small
      rw [inInt64, Bool.and_eq_true, decide_eq_true_eq, decide_eq_true_eq, minInt64, maxInt64]
      omega
    rw [multiply64, ← Int.natCast_mul, if_pos (fits _ small)]
  have both : (fun r => StoredRecord.document (readBack r)) = StoredRecord.document ∘ readBack :=
    rfl
  rw [Engine.listRecords_documents h.plainRun.reached.inv he unmade, Nat.max_eq_left first,
    Nat.max_eq_left some, h.newest_documents unmade, slice_map, both, ← List.map_map]
  simp only [Database.listRecords, Nat.max_eq_left first, Nat.max_eq_left some, before]
  rfl

theorem Dated.list_rows (h : Dated (.table e.table) now order g) (he : e ∈ g.database.live)
    (created : e.tableCreated = true) (template : e.layout = .template) {page size : Nat}
    (first : 0 < page) (some : 0 < size) (small : (page - 1) * size ≤ maxNat32)
    (counted : page ≤ maxNat32) : (g.listRecords e.appId e.code page size).1 =
      .ok (slice size ((page - 1) * size) (g.newest e order none)) := by
  obtain ⟨made, run⟩ := h.run
  obtain ⟨t, there, needed, once, rfl, newest⟩ := h.table he created template
  have skip : (Engine.pageOptions page size).skip = (page - 1) * size := Nat.min_eq_left small
  have paged : (Engine.pageOptions page size).offset = .ok ((page - 1) * size) := by
    have whole : (page - 1) * size / size = page - 1 := Nat.mul_div_cancel _ some
    have offset := (Engine.pageOptions page size).offset_of_skip some (by
      rw [skip]
      show (page - 1) * size / size + 1 ≤ maxNat32
      omega)
    rw [offset, skip]
    show Except.ok ((page - 1) * size / size * size) = _
    rw [whole]
  have queried := Database.queryRows_newest (o := Engine.pageOptions page size) rfl paged small
    needed rfl
  rw [template] at queried
  have both : (fun row => StoredRecord.row (t.shown e row)) = StoredRecord.row ∘ t.shown e := rfl
  rw [newest, slice_map, both, ← List.map_map]
  simp only [Engine.listRecords, run.coherent.inv.resolve_live he, created, if_true,
    Nat.max_eq_left first, Nat.max_eq_left some, queried]
  rfl

variable (h : Dated e.place now order g) (he : e ∈ g.database.live)
  (layout : e.tableCreated = true → e.layout = .template)

include h he layout

theorem Dated.numbers : order.Nodup ∧ ∀ n, (g.stored? e none n).isSome = true → n ∈ order := by
  cases created : e.tableCreated with
  | false =>
    rw [Entity.place, created] at h
    obtain ⟨-, rfl⟩ := h.documents
    refine ⟨h.plainRun.owned.ids, fun n there => ?_⟩
    rw [Engine.stored?_documents created] at there
    exact mem_of_pick there
  | true =>
    rw [Entity.place, created] at h
    obtain ⟨t, there, -, once, rfl, -⟩ := h.table he created (layout created)
    refine ⟨once, fun n there' => ?_⟩
    rw [Engine.stored?_rows created there] at there'
    exact mem_of_pick there'

theorem Dated.query (plain : o.orderBy = []) (paged : o.offset = .ok offset)
    (small : offset ≤ maxNat32) (can : g.CanAsk e o.filter) : g.Answers e order o offset := by
  cases created : e.tableCreated with
  | false =>
    rw [Entity.place, created] at h
    exact h.query_documents he created plain paged small can
  | true =>
    rw [Entity.place, created] at h
    exact h.query_rows he created (layout created) plain paged small can

theorem Dated.refused (paged : o.offset = .ok offset) (cannot : ¬ g.CanAsk e o.filter) :
    ∃ f, (g.query e.appId e.code o).1 = .error f := by
  cases created : e.tableCreated with
  | false =>
    rw [Entity.place, created] at h
    exact h.refused_documents he created paged cannot
  | true =>
    rw [Entity.place, created] at h
    exact h.refused_rows he created (layout created) paged cannot

theorem Dated.list {page size : Nat} (first : 0 < page) (some : 0 < size)
    (small : (page - 1) * size ≤ maxNat32) (counted : page ≤ maxNat32) :
    (g.listRecords e.appId e.code page size).1 =
      .ok (slice size ((page - 1) * size) (g.newest e order none)) := by
  cases created : e.tableCreated with
  | false =>
    rw [Entity.place, created] at h
    exact h.list_documents he created first some small
  | true =>
    rw [Entity.place, created] at h
    exact h.list_rows he created (layout created) first some small counted

end

def storeOtherNote : Operation :=
  .createRecord 1 "note" [("body", .text "second")] "a" ⟨⟨1, 0⟩, "s", "c"⟩

/-- Two notes, kept as documents. -/
def twoNotes : Engine := storeOtherNote.run notes

theorem dated_notes : (∃ order, Dated .documents ⟨0, 0⟩ order notes) ∧
    ∃ order, Dated .documents ⟨1, 0⟩ order twoNotes := by
  have plain : ∀ {op : Operation} {g : Engine}, op.makes? g = none → op.Suits g .documents := by
    intro op g none e database makes
    rw [none] at makes
    cases makes
  have reads : ∀ {op : Operation} {t : Time.Instant}, op.now? = some t →
      ∀ u, op.now? = some u → u = t := fun now u now' => Option.some.inj (now'.symm.trans now)
  have common : ∀ t ∈ [(⟨0, 0⟩ : Time.Instant), ⟨1, 0⟩], t.IsCommon := by
    intro t ht
    have year : ∀ t ∈ [(⟨0, 0⟩ : Time.Instant), ⟨1, 0⟩], t.nano < 1000000000 ∧
        0 ≤ t.date.year ∧ t.date.year ≤ 9999 := by decide +kernel
    exact ⟨(year t ht).1, (year t ht).2⟩
  have declared : Dated .documents ⟨0, 0⟩ _ (declareNote.run (.start .empty "")) :=
    .step declareNote (.start ⟨0, 0⟩ "") (plain (by decide)) (Time.Instant.le_refl _)
      (common _ (by decide)) (reads rfl)
  have stored : Dated .documents ⟨0, 0⟩ _ notes :=
    .step storeNote declared (plain rfl) (Time.Instant.le_refl _) (common _ (by decide)) (reads rfl)
  exact ⟨⟨_, stored⟩, _, .step storeOtherNote stored (plain rfl) (Or.inl (by decide))
    (common _ (by decide)) (reads rfl)⟩

/-- Both notes are found, in the order in which they were stored. -/
def HasBoth (g : Engine) : Prop :=
  (g.database.entity? 1).any (fun e => !e.tableCreated &&
    decide (g.database.documents.map Record.id = [1, 2]) &&
      decide (([2, 1].filterMap (g.stored? e none)).length = 2)) = true

instance (g : Engine) : Decidable (HasBoth g) := inferInstanceAs (Decidable (_ = true))

theorem length_le_byteLength (s : List Char) : s.length ≤ Text.byteLength s := by
  induction s with
  | nil => exact Nat.le_refl 0
  | cons c s ih =>
    have some := c.utf8Size_pos
    rw [List.length_cons, Text.byteLength]
    omega

theorem length_le_patternChars (t : TextTest) (s : List Char) :
    s.length < (t.patternChars s).length := by
  have literal : s.length ≤ (TextTest.literalPattern s).length := by
    induction s with
    | nil => exact Nat.le_refl 0
    | cons c s ih =>
      rw [TextTest.literalPattern, List.flatMap_cons, List.length_append, List.length_cons]
      have head : 1 ≤ (if TextTest.isPatternChar c then ['\\', c] else [c]).length := by
        split <;> simp
      rw [TextTest.literalPattern] at ih
      omega
  cases t <;> simp only [TextTest.patternChars, List.length_cons, List.length_append,
    List.length_nil] <;> omega

/-- A text as long as the longest pattern makes a pattern that is too long. -/
theorem isTooLong_test (operand : Operand) (field : String) (t : TextTest) (value : String)
    (long : Condition.maxPatternLength ≤ value.toList.length) :
    (Query.documentCondition operand (.test field t value)).isTooLong = true := by
  have chars := length_le_patternChars t value.toList
  have bytes := length_le_byteLength (t.patternChars value.toList)
  refine decide_eq_true ?_
  rw [TextTest.pattern, String.toList_ofList]
  omega

/-- A text as long as the longest pattern. -/
def longText : String := String.ofList (List.replicate Condition.maxPatternLength 'x')

theorem long_text_refused : ∃ e ∈ notes.database.live, e.tableCreated = false ∧
    (notes.stored? e none 1).isSome = true ∧ ∃ f,
      (notes.query e.appId e.code { filter := some (.test "body" .contains longText) }).1 =
        .error f := by
  have stored : ((notes.database.entity? 1).any fun e => !e.tableCreated &&
      (notes.stored? e none 1).isSome) = true := by decide +kernel
  rw [Option.any_eq_true] at stored
  obtain ⟨e, found, facts⟩ := stored
  simp only [Bool.and_eq_true, Bool.not_eq_true'] at facts
  obtain ⟨unmade, there⟩ := facts
  obtain ⟨order, dated⟩ := dated_notes.1
  have he := List.mem_of_find?_eq_some found
  have paged : ({ filter := some (.test "body" .contains longText) } : QueryOptions).offset =
      .ok 0 := rfl
  refine ⟨e, he, unmade, there, dated.refused_documents he unmade paged ?_⟩
  rintro (short | none)
  · have long := isTooLong_test (Query.documentOperand e "body") "body" .contains
      longText (by rw [longText, String.toList_ofList, List.length_replicate])
    rw [Query.conditions, unmade] at short
    have fits := short _ (List.mem_append_right _ (List.mem_singleton_self _))
    exact Bool.false_ne_true (fits.symm.trans long)
  · rw [none 1] at there
    cases there

/-- Two rows, one of which comes before the other one. -/
theorem sortRows_pair {α : Type} {order : List OrderTerm} {read : α → Reader} {rows : List α}
    {r s : α} (both : rows.Perm [r, s]) (first : compareRows order (read r) (read s) = .lt)
    (second : compareRows order (read s) (read r) = .gt) : sortRows order read rows = [r, s] := by
  have pair : rows = [r, s] ∨ rows = [s, r] := by
    have two := both.length_eq
    match rows, two with
    | [a, b], _ =>
      rcases List.mem_pair.mp (both.mem_iff.mp List.mem_cons_self) with rfl | rfl
      · have rest := (List.perm_cons a).mp both
        exact Or.inl (congrArg _ (List.perm_singleton.mp rest))
      · have rest := (List.perm_cons a).mp (both.trans (List.Perm.swap a r []))
        exact Or.inr (congrArg _ (List.perm_singleton.mp rest))
  rcases pair with rfl | rfl
  · simp [sortRows, List.mergeSort, first]
  · simp [sortRows, List.mergeSort, second]

/-- The notes are rows in the table of a template, which has the columns of their definition, and
the one with the identifier "r" is shown before the one with the identifier "s". -/
def ShowsInTurn (g : Engine) : Prop :=
  ∃ e t result, g.registry.getByCode? 1 "note" = some e ∧ e.tableCreated = true ∧
    e.layout = .template ∧ g.database.needTable e.table = .ok t ∧
      t.columns.map (fun c => Text.fold c.name) = e.columns.map Text.fold ∧
        (g.query 1 "note" {}).1 = .ok result ∧
          result.rows.map (fun row => row.get? "record_id") =
            [some (.text "r"), some (.text "s")]

/-- The rows come in turn as the order of a query has them. -/
def InTurn (e : Entity) (t : Table) : Bool :=
  t.columns.map (fun c => Text.fold c.name) == e.columns.map Text.fold &&
    match t.rows with
    | [a, b] => [(a, b), (b, a)].any fun (r, s) =>
      compareRows (Query.tableOrder .template) (t.reader r) (t.reader s) == .lt &&
        compareRows (Query.tableOrder .template) (t.reader s) (t.reader r) == .gt &&
          (t.shown e r).get? "record_id" == some (.text "r") &&
            (t.shown e s).get? "record_id" == some (.text "s")
    | _ => false

def RowsInTurn (g : Engine) : Prop :=
  (g.registry.getByCode? 1 "note").any (fun e => e.tableCreated && e.layout == .template &&
    (g.database.needTable e.table).toOption.any (InTurn e)) = true

instance : DecidablePred RowsInTurn := fun _ => inferInstanceAs (Decidable (_ = true))

theorem showsInTurn {g : Engine} (h : RowsInTurn g) : ShowsInTurn g := by
  rw [RowsInTurn, Option.any_eq_true] at h
  obtain ⟨e, held, facts⟩ := h
  simp only [Bool.and_eq_true, beq_iff_eq, Option.any_eq_true] at facts
  obtain ⟨⟨created, template⟩, t, needed, turn⟩ := facts
  have there : g.database.needTable e.table = .ok t := by
    cases found : g.database.needTable e.table with
    | error f =>
      rw [found] at needed
      cases needed
    | ok u =>
      rw [found] at needed
      exact congrArg Except.ok (Option.some.inj needed)
  rw [InTurn, Bool.and_eq_true, beq_iff_eq] at turn
  obtain ⟨columns, turn⟩ := turn
  split at turn
  · rename_i a b rows
    obtain ⟨⟨r, s⟩, mem, facts⟩ := List.any_eq_true.mp turn
    simp only [Bool.and_eq_true, beq_iff_eq] at facts
    obtain ⟨⟨⟨first, second⟩, shownFirst⟩, shownSecond⟩ := facts
    have both : t.rows.Perm [r, s] := by
      rw [rows]
      rcases List.mem_pair.mp mem with pair | pair
      · obtain ⟨rfl, rfl⟩ := Prod.mk.inj pair
        exact .refl _
      · obtain ⟨rfl, rfl⟩ := Prod.mk.inj pair
        exact .swap _ _ _
    have selected : t.select e.columns [] (Query.tableOrder .template) = [r, s] :=
      sortRows_pair (((t.visited_perm _ _ _).filter _).trans
        ((List.filter_eq_self.mpr fun _ _ => rfl) ▸ both)) first second
    have paged : ({} : QueryOptions).offset = .ok 0 := rfl
    have queried := Database.queryRows_newest rfl paged (Nat.zero_le _) there rfl
    rw [template] at queried
    refine ⟨e, t, {
      context := g.contextOf e.code
      rows := [t.shown e r, t.shown e s]
      count := none
      stats := none }, held, created, template, there, columns, ?_, ?_⟩
    · have conditions : Query.columnConditions e none = [] := rfl
      simp only [Engine.query, Engine.resolve, held, Engine.foundRows, created, queried,
        conditions, selected]
      rfl
    · rw [List.map_cons, List.map_singleton, shownFirst, shownSecond]
  · cases turn

/-- Notes in a table that is made at once. -/
def declareNoteTable (columnType : Option String) : Operation :=
  .createEntity
    { appId := 1
      name := "Note"
      table := "note"
      code := some "note"
      fields := [{ name := "body", type := .text, columnType }]
      autoCreate := true }
    "a" ⟨⟨0, 0⟩, "r", "c"⟩

def giveField (field : FieldDraft) : Operation :=
  .replaceFields 1 [field] "a" ⟨⟨0, 0⟩, "r", "c"⟩

/-- Both rows are given their numbers, for they are stored at one time while a field stands for the
numbers of rows. Then the field is gone. -/
def numberedNotes : Engine :=
  let number (n : Int) (key : String) : Operation :=
    .createRecord 1 "note" [("rowid", .integer n)] "a" ⟨⟨0, 0⟩, key, "c"⟩
  let named := (giveField { name := "rowid", type := .integer }).run
    ((declareNoteTable none).run (.start .empty ""))
  (giveField { name := "body", type := .text }).run
    ((number 3 "s").run ((number 5 "r").run named))

/-- The time at which the first row was stored follows the time of its last update. -/
def linkedNotes : Engine :=
  let store (key : String) (now : Time.Instant) : Operation :=
    .createRecord 1 "note" [("body", .text "new")] "a" ⟨now, key, "c"⟩
  let declared := (declareNoteTable (some ("TEXT,UNIQUE(updated_at)," ++
    "FOREIGN KEY(created_at)REFERENCES note(updated_at)ON UPDATE CASCADE"))).run
      (.start .empty "")
  (Operation.updateRecordByKey 1 "r" [("body", .text "changed")] "a" ⟨⟨3, 0⟩, "t", "c"⟩).run
    ((store "s" ⟨2, 0⟩).run ((store "r" ⟨1, 0⟩).run declared))

theorem numberedNotes_inTurn : RowsInTurn numberedNotes := by
  let number (n : Int) (key : String) : Operation :=
    .createRecord 1 "note" [("rowid", .integer n)] "a" ⟨⟨0, 0⟩, key, "c"⟩
  rw [numberedNotes, declareNoteTable]
  exact Operation.run_of_any (fun g =>
    RowsInTurn ((giveField { name := "body", type := .text }).run ((number 3 "s").run
      ((number 5 "r").run ((giveField { name := "rowid", type := .integer }).run g)))))
    (by decide +kernel)

theorem linkedNotes_inTurn : RowsInTurn linkedNotes := by
  let store (key : String) (now : Time.Instant) : Operation :=
    .createRecord 1 "note" [("body", .text "new")] "a" ⟨now, key, "c"⟩
  let update : Operation :=
    .updateRecordByKey 1 "r" [("body", .text "changed")] "a" ⟨⟨3, 0⟩, "t", "c"⟩
  rw [linkedNotes, declareNoteTable]
  exact Operation.run_of_any (fun g =>
    RowsInTurn (update.run ((store "s" ⟨2, 0⟩).run ((store "r" ⟨1, 0⟩).run g))))
    (by decide +kernel)

end EntityEngine
