import EntityEngine.Proofs.Engine.Making
import EntityEngine.Proofs.Store.EngineRows

/-! Definitions are read back as they were declared. A draft that is accepted is found under its
code, under its id and in the list of its application, as one definition with the attributes and the
fields of the draft; and the rows that keep it stand for just that definition. -/

namespace EntityEngine

open Store Text Time

/-! ### What a draft stands for -/

namespace FieldDraft

/-- Where a field stands among the others: at its sort order, or at its place in the list. -/
def order (p : FieldDraft × Nat) : Int := p.1.sortOrder.getD p.2

/-- The first field stands before the second; of equals, the one that is earlier in the list. -/
def Precedes (p q : FieldDraft × Nat) : Prop := order p < order q ∨ order p = order q ∧ p.2 < q.2

/-- A field is what the draft at a place of the list declares. -/
structure Declares (layout : Layout) (p : FieldDraft × Nat) (f : Field) : Prop where
  name : f.name = trim p.1.name
  code : f.code = p.1.code.getD (trim p.1.name)
  displayName : f.displayName = p.1.displayName
  description : f.description = p.1.description
  type : f.type = p.1.type
  givenType : ∀ t, p.1.columnType = some t → isBlankText t = false → f.columnType = t
  openType : p.1.columnType.all isBlankText = true →
    f.columnType = p.1.type.columnType p.1.length p.1.scale layout
  length : f.length = p.1.length
  scale : f.scale = p.1.scale
  isKey : f.isKey = p.1.isKey
  isNotNull : f.isNotNull = (p.1.isNotNull || p.1.isKey)
  isUnique : f.isUnique = p.1.isUnique
  isIndexed : f.isIndexed = p.1.isIndexed
  default : f.default = p.1.default
  sortOrder : f.sortOrder = order p
  status : f.status = .active
  rules : f.rules = p.1.rules
  properties : f.properties = p.1.properties

end FieldDraft

namespace EntityDraft

/-- Fields are what some drafts declare, one for one and in their order. -/
def DeclaresFields (d : EntityDraft) (fields : List Field) : Prop :=
  ∃ placed : List (FieldDraft × Nat), placed.Perm d.fields.zipIdx ∧
    placed.Pairwise FieldDraft.Precedes ∧ List.Forall₂ (FieldDraft.Declares d.layout) placed fields

/-- A definition is what a draft declares under a code. -/
structure Declares (d : EntityDraft) (code : String) (e : Entity) : Prop where
  name : e.name = trim d.name
  code : e.code = code
  table : e.table = trim d.table
  displayName : e.displayName = d.displayName
  description : e.description = d.description
  appId : e.appId = d.appId
  kind : e.kind = d.kind
  status : e.status = d.status
  autoCreate : e.autoCreate = d.autoCreate
  tableCreated : e.tableCreated = false
  version : e.version = 1
  sortOrder : e.sortOrder = d.sortOrder
  properties : e.properties = d.properties
  live : e.deleted = false
  fields : d.DeclaresFields e.fields

/-- JSON in a draft is read back from its text. -/
structure IsReread (d : EntityDraft) : Prop where
  own : EntityEngine.IsReread d.properties
  fields : ∀ f ∈ d.fields, EntityEngine.IsReread f.properties

/-- The numbers of a draft have the sizes of the columns that keep them. -/
structure IsSized (d : EntityDraft) : Prop where
  sortOrder : IsSmall d.sortOrder
  count : d.fields.length ≤ 0x80000000
  orders : ∀ f ∈ d.fields, ∀ n ∈ f.sortOrder, IsSmall n
  lengths : ∀ f ∈ d.fields, ∀ n ∈ f.length, n ≤ Number.maxNat32
  scales : ∀ f ∈ d.fields, ∀ n ∈ f.scale, n ≤ Number.maxNat32

end EntityDraft

theorem map_reread {v : Option Json} (h : IsReread v) : v.map Json.reread = v := by
  cases v with
  | none => rfl
  | some j =>
    have read := h j rfl
    rw [Option.map_some, Json.reread, read]
    rfl

/-! ### Stored fields -/

namespace FieldDraft

theorem declares_storedField {p : FieldDraft × Nat} (json : IsReread p.1.properties)
    (entityId id : Int) (layout : Layout) (audit : Audit) :
    Declares layout p (storedField entityId id layout audit p.2 p.1) where
  name := rfl
  code := rfl
  displayName := rfl
  description := rfl
  type := rfl
  givenType t given some := by
    show FieldDraft.typeFor p.1 layout = t
    simp [FieldDraft.typeFor, given, Option.filter, some]
  openType blank := by
    show FieldDraft.typeFor p.1 layout = _
    cases given : p.1.columnType with
    | none => simp [FieldDraft.typeFor, given]
    | some t =>
      rw [given] at blank
      have blank : isBlankText t = true := blank
      simp [FieldDraft.typeFor, given, Option.filter, blank]
  length := rfl
  scale := rfl
  isKey := rfl
  isNotNull := rfl
  isUnique := rfl
  isIndexed := rfl
  default := rfl
  sortOrder := rfl
  status := rfl
  rules := rfl
  properties := map_reread json

end FieldDraft

section

variable {α : Type} (key : α → Int)

theorem keyed_trans (a b c : α) (first : decide (key a ≤ key b) = true)
    (second : decide (key b ≤ key c) = true) : decide (key a ≤ key c) = true := by
  rw [decide_eq_true_eq] at *
  omega

theorem keyed_total (a b : α) : (decide (key a ≤ key b) || decide (key b ≤ key a)) = true := by
  rw [Bool.or_eq_true, decide_eq_true_eq, decide_eq_true_eq]
  omega

end

/-- Numbered elements are sorted by a key so that equals stay in the order of their numbers. -/
theorem pairwise_mergeSort_zipIdx {α : Type} (l : List α) (key : α × Nat → Int) :
    (l.zipIdx.mergeSort fun p q => key p ≤ key q).Pairwise fun p q =>
      key p < key q ∨ key p = key q ∧ p.2 < q.2 := by
  have distinct : (l.zipIdx.mergeSort fun p q => key p ≤ key q).Pairwise fun p q =>
      p.2 ≠ q.2 := by
    have numbers : (l.zipIdx.map Prod.snd).Nodup := by
      rw [List.zipIdx_map_snd]
      exact List.nodup_range'
    have sorted := (List.mergeSort_perm l.zipIdx fun p q => key p ≤ key q).map Prod.snd
    exact List.pairwise_map.mp (sorted.nodup_iff.mpr numbers)
  have ordered : (l.zipIdx.mergeSort fun p q => key p ≤ key q).Pairwise fun p q =>
      key p < key q ∨ key p = key q ∧ p.2 ≤ q.2 := by
    rw [← List.mergeSort_zipIdx, List.pairwise_map]
    -- The second number of an element is the one that it has already.
    have numbered : ∀ p ∈ l.zipIdx.zipIdx.mergeSort
        (List.zipIdxLE fun p q => key p ≤ key q), p.1.2 = p.2 := by
      rintro ⟨⟨x, i⟩, j⟩ hp
      have found := List.mem_zipIdx_iff_getElem?.mp ((List.mergeSort_perm _ _).mem_iff.mp hp)
      rw [List.getElem?_zipIdx, Option.map_eq_some_iff] at found
      obtain ⟨y, -, eq⟩ := found
      have place := congrArg Prod.snd eq
      simp only [Nat.zero_add] at place
      exact place.symm
    have sorted := List.pairwise_mergeSort (List.zipIdxLE_trans (keyed_trans key))
      (List.zipIdxLE_total (keyed_total key)) l.zipIdx.zipIdx
    apply sorted.imp_of_mem
    intro p q hp hq le
    have first := numbered p hp
    have second := numbered q hq
    simp only [List.zipIdxLE, decide_eq_true_eq] at le
    split at le
    · split at le
      · have later := of_decide_eq_true le
        omega
      · omega
    · cases le
  exact (distinct.and ordered).imp fun ⟨ne, le⟩ => by omega

section

variable {d : EntityDraft} {id first : Int} {audit : Audit}

theorem sortFields_storedFields (id first : Int) (layout : Layout) (audit : Audit)
    (fields : List FieldDraft) : sortFields (storedFields id first layout audit fields) =
      (fields.zipIdx.mergeSort fun p q => FieldDraft.order p ≤ FieldDraft.order q).map fun p =>
        storedField id (first + p.2) layout audit p.2 p.1 := by
  unfold sortFields storedFields
  symm
  apply List.map_mergeSort
  intro p _ q _
  rfl

theorem mem_of_mem_placed {fields : List FieldDraft} {p : FieldDraft × Nat}
    (hp : p ∈ fields.zipIdx.mergeSort fun p q => FieldDraft.order p ≤ FieldDraft.order q) :
    p.1 ∈ fields ∧ p.2 < fields.length := by
  obtain ⟨-, bound, found⟩ := List.mem_zipIdx ((List.mergeSort_perm _ _).mem_iff.mp hp)
  refine ⟨?_, by omega⟩
  rw [found]
  exact List.getElem_mem _

theorem EntityDraft.IsReread.declaresFields (json : d.IsReread) :
    d.DeclaresFields (sortFields (storedFields id first d.layout audit d.fields)) := by
  rw [sortFields_storedFields]
  refine ⟨_, List.mergeSort_perm _ _, pairwise_mergeSort_zipIdx d.fields FieldDraft.order, ?_⟩
  rw [List.forall₂_map_right_iff, List.forall₂_same]
  intro p hp
  exact FieldDraft.declares_storedField (json.fields p.1 (mem_of_mem_placed hp).1) _ _ _ _

/-! ### Kept rows -/

theorem EntityDraft.IsSized.kept (sized : d.IsSized) (json : d.IsReread) (kept : audit.IsKept)
    {f : Field} (hf : f ∈ sortFields (storedFields id first d.layout audit d.fields)) :
    f.IsKept ∧ f.entityId = id := by
  rw [sortFields_storedFields] at hf
  obtain ⟨p, hp, rfl⟩ := List.mem_map.mp hf
  obtain ⟨mem, place⟩ := mem_of_mem_placed hp
  have count := sized.count
  refine ⟨⟨sized.lengths p.1 mem, sized.scales p.1 mem, ?_, ?_, kept⟩, rfl⟩
  · show IsSmall (p.1.sortOrder.getD p.2)
    cases given : p.1.sortOrder with
    | none =>
      show -0x80000000 ≤ (p.2 : Int) ∧ (p.2 : Int) < 0x80000000
      omega
    | some n => exact sized.orders p.1 mem n given
  · show EntityEngine.IsReread (p.1.properties.map Json.reread)
    rw [map_reread (json.fields p.1 mem)]
    exact json.fields p.1 mem

theorem sorted_sortFields (fields : List Field) :
    (sortFields fields).Pairwise fun f g => f.sortOrder ≤ g.sortOrder := by
  exact (List.pairwise_mergeSort (keyed_trans Field.sortOrder) (keyed_total Field.sortOrder)
    fields).imp fun le => of_decide_eq_true le

/-- The audit of something made by a usual clock is read back. -/
theorem Audit.isKept_fresh (actor : String) {now : Instant} (h : now.IsCommon) :
    (Audit.fresh actor now.toMicros).IsKept := by
  have read : Instant.parse? now.toMicros.stored = some now.toMicros := by
    rw [Instant.stored_toMicros]
    exact Instant.parse?_stored h
  exact ⟨read, read⟩

/-! ### Stored definitions -/

variable {db db' : Database} {actor : String} {ambient : Ambient} {e : Entity}

theorem declares_of_createEntity (json : d.IsReread)
    (h : db.createEntity d actor ambient = .ok (e, db')) : d.Declares (codeOf d ambient) e := by
  simp only [Database.createEntity] at h
  obtain ⟨-, h⟩ := unless_ok h
  split at h
  · cases h
  · obtain ⟨id, -, h⟩ := bind_ok h
    obtain ⟨first, -, h⟩ := bind_ok h
    obtain ⟨rfl, -⟩ := Prod.mk.inj (Except.ok.inj h)
    exact ⟨rfl, rfl, rfl, rfl, rfl, rfl, rfl, rfl, rfl, rfl, rfl, rfl, map_reread json.own, rfl,
      json.declaresFields⟩

theorem kept_of_createEntity (json : d.IsReread) (sized : d.IsSized) (clock : ambient.now.IsCommon)
    (h : db.createEntity d actor ambient = .ok (e, db')) :
    e.IsKept ∧ ∀ f ∈ e.fields, f.entityId = e.id := by
  simp only [Database.createEntity] at h
  obtain ⟨-, h⟩ := unless_ok h
  split at h
  · cases h
  · obtain ⟨id, -, h⟩ := bind_ok h
    obtain ⟨first, -, h⟩ := bind_ok h
    obtain ⟨rfl, -⟩ := Prod.mk.inj (Except.ok.inj h)
    have audit := Audit.isKept_fresh actor clock
    have fields (f : Field) (hf : f ∈ sortFields (storedFields id first d.layout _ d.fields)) :=
      sized.kept json audit hf
    have properties : EntityEngine.IsReread (d.properties.map Json.reread) := by
      rw [map_reread json.own]
      exact json.own
    exact ⟨⟨sized.sortOrder, properties, audit, fun f hf => (fields f hf).1, sorted_sortFields _⟩,
      fun f hf => (fields f hf).2⟩

namespace Store.Database.Created

theorem entity? (c : db.Created d ambient e db') : db'.entity? e.id = some e := by
  have older : ∀ x ∈ db.live, ¬ (decide (x.id = e.id)) = true := by
    intro x hx
    rw [decide_eq_true_eq]
    exact c.id_ne (Database.mem_live.mp hx).1
  unfold Database.live at older
  rw [Database.entity?, Database.live, c.entities, List.filter_append, List.find?_append,
    List.find?_eq_none.mpr older]
  simp [c.live]

theorem entityByCode? (c : db.Created d ambient e db') :
    db'.entityByCode? d.appId (codeOf d ambient) = some e := by
  have free := c.codeFree
  rw [Database.entityByCode?, Database.live] at free
  rw [Database.entityByCode?, Database.live, c.entities, List.filter_append, List.find?_append, free]
  simp [c.live, c.appId, c.code]

theorem mem_list (c : db.Created d ambient e db') {x : Entity} :
    x ∈ db'.list d.appId ↔ (x ∈ db.live ∨ x = e) ∧ x.appId = d.appId := by
  rw [list, sortEntities, (List.mergeSort_perm _ _).mem_iff, List.mem_filter, c.mem_live]
  simp

end Store.Database.Created

end

theorem createEntity_plain {g g' : Engine} {d : EntityDraft} {actor : String} {ambient : Ambient}
    {e : Entity} (plain : d.autoCreate = false)
    (created : g.createEntity d actor ambient = (.ok e, g')) :
    ∃ database, g.database.createEntity d actor ambient = .ok (e, database) ∧
      g'.database = database := by
  unfold Engine.createEntity at created
  split at created
  · cases created
  · split at created
    · cases created
    · rename_i stored database h
      have c := Database.created_of_createEntity (during_ok h)
      rw [c.autoCreate, plain] at created
      obtain ⟨same, rfl⟩ := Prod.mk.inj created
      obtain rfl := Except.ok.inj same
      exact ⟨database, during_ok h, rfl⟩

/-- Goods on a shelf: a key without a place of its own, a price in front of it, and a label that
has the place of the key. -/
def shelf : EntityDraft where
  appId := 1
  name := " Shelf "
  table := "shelf\t"
  kind := .static
  sortOrder := 3
  properties := some (.object [("rows", .integer 4)])
  fields := [
    { name := " sku", type := .integer, isKey := true },
    { name := "label", type := .string, sortOrder := some 0, columnType := some " ",
      properties := some (.array [.text "a\n", .null]) },
    { name := "price", type := .decimal, code := some "p", sortOrder := some (-1), scale := some 4,
      default := some "0" }]

theorem isReread_shelf : shelf.IsReread := by
  refine ⟨?_, ?_⟩
  · rintro j ⟨⟩
    decide +kernel
  · intro f hf
    simp only [shelf, List.mem_cons, List.not_mem_nil, or_false] at hf
    rcases hf with rfl | rfl | rfl
    · rintro j ⟨⟩
    · rintro j ⟨⟩
      decide +kernel
    · rintro j ⟨⟩

theorem declared_shelf : ∃ e g', (Engine.start .empty "").createEntity shelf "a"
    ⟨⟨86399, 999999999⟩, "r", "c"⟩ = (.ok e, g') := by
  have accepted : ((Engine.start .empty "").createEntity shelf "a"
      ⟨⟨86399, 999999999⟩, "r", "c"⟩).1.isOk = true := by decide +kernel
  cases outcome : (Engine.start .empty "").createEntity shelf "a"
      ⟨⟨86399, 999999999⟩, "r", "c"⟩ with
  | mk result g' =>
    rw [outcome] at accepted
    cases result with
    | error f => cases accepted
    | ok e => exact ⟨e, g', rfl⟩

end EntityEngine
