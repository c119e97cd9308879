import EntityEngine.Registry

/-! A registry holds a list of definitions: both of its indexes answer for exactly those. What it
holds then follows each `upsert` and `remove`. -/

namespace EntityEngine.Registry

section Without

variable {κ α : Type} [BEq κ] [LawfulBEq κ]

theorem lookup_without_self (key : κ) (entries : List (κ × α)) :
    (without key entries).lookup key = none := by
  rw [List.lookup_eq_none_iff]
  intro p mem
  have kept := (List.mem_filter.mp mem).2
  have ne : p.1 ≠ key := by simpa using kept
  simpa using Ne.symm ne

theorem lookup_without_ne {key k : κ} (ne : k ≠ key) (entries : List (κ × α)) :
    (without key entries).lookup k = entries.lookup k := by
  induction entries with
  | nil => rfl
  | cons p rest ih =>
    obtain ⟨j, v⟩ := p
    by_cases same : j = key
    · have other : (k == j) = false := by
        rw [same]
        simpa using ne
      rw [List.lookup_cons, other, ← ih]
      simp [without, same]
    · have kept : without key ((j, v) :: rest) = (j, v) :: without key rest := by
        simp [without, same]
      rw [kept, List.lookup_cons, List.lookup_cons, ih]

end Without

/-- The registry answers for exactly the definitions of a list: for each under its id, and under
its application and code. So no two of them share either. -/
structure Holds (r : Registry) (entities : List Entity) : Prop where
  byId : ∀ id e, r.byId.lookup id = some e ↔ e ∈ entities ∧ e.id = id
  byCode : ∀ appId code id, r.byCode.lookup (appId, code) = some id ↔
    ∃ e ∈ entities, e.id = id ∧ e.appId = appId ∧ e.code = code

theorem empty_holds : empty.Holds [] := by
  constructor
  · intro id e
    simp [empty]
  · intro appId code id
    simp [empty]

namespace Holds

variable {r : Registry} {entities : List Entity}

theorem get?_iff (h : r.Holds entities) {id : Int} {e : Entity} :
    r.get? id = some e ↔ e ∈ entities ∧ e.id = id := h.byId id e

/-- No two definitions that are held share an id. -/
theorem eq_of_id (h : r.Holds entities) {d e : Entity} (hd : d ∈ entities) (he : e ∈ entities)
    (same : d.id = e.id) : d = e := by
  have first := h.get?_iff.mpr ⟨hd, same⟩
  have second := h.get?_iff.mpr ⟨he, rfl⟩
  exact Option.some.inj (first.symm.trans second)

theorem getByCode?_iff (h : r.Holds entities) {appId : Int} {code : String} {e : Entity} :
    r.getByCode? appId code = some e ↔ e ∈ entities ∧ e.appId = appId ∧ e.code = code := by
  unfold getByCode?
  rw [Option.bind_eq_some_iff]
  constructor
  · rintro ⟨id, found, got⟩
    obtain ⟨d, hd, hid, happ, hcode⟩ := (h.byCode appId code id).mp found
    obtain ⟨he, same⟩ := h.get?_iff.mp got
    obtain rfl := h.eq_of_id hd he (hid.trans same.symm)
    exact ⟨hd, happ, hcode⟩
  · rintro ⟨he, happ, hcode⟩
    exact ⟨e.id, (h.byCode appId code e.id).mpr ⟨e, he, rfl, happ, hcode⟩,
      h.get?_iff.mpr ⟨he, rfl⟩⟩

/-- No two definitions that are held share a code in an application. -/
theorem eq_of_code (h : r.Holds entities) {d e : Entity} (hd : d ∈ entities) (he : e ∈ entities)
    (app : d.appId = e.appId) (code : d.code = e.code) : d = e := by
  have first := h.getByCode?_iff.mpr ⟨hd, app, code⟩
  have second := h.getByCode?_iff.mpr ⟨he, rfl, rfl⟩
  exact Option.some.inj (first.symm.trans second)

/-- Only which definitions are in the list matters. -/
theorem congr (h : r.Holds entities) {others : List Entity}
    (same : ∀ e, e ∈ others ↔ e ∈ entities) : r.Holds others := by
  constructor
  · intro id e
    rw [h.byId id e, same e]
  · intro appId code id
    rw [h.byCode appId code id]
    constructor
    · rintro ⟨e, he, rest⟩
      exact ⟨e, (same e).mpr he, rest⟩
    · rintro ⟨e, he, rest⟩
      exact ⟨e, (same e).mp he, rest⟩

/-- A registry without an id holds what it held, without the definition of that id. -/
theorem remove (h : r.Holds entities) (id : Int) :
    (r.remove id).Holds (entities.filter fun e => e.id ≠ id) := by
  unfold Registry.remove
  cases found : r.get? id with
  | none =>
    -- Nothing was held under the id, so nothing is left out.
    refine h.congr fun e => ?_
    have absent : e ∈ entities → e.id ≠ id := by
      intro he same
      rw [h.get?_iff.mpr ⟨he, same⟩] at found
      cases found
    simpa using absent
  | some old =>
    obtain ⟨hold, hid⟩ := h.get?_iff.mp found
    constructor
    · intro j e
      show (without id r.byId).lookup j = some e ↔ _
      by_cases same : j = id
      · rw [same, lookup_without_self]
        simp
      · rw [lookup_without_ne same, h.byId j e]
        simp only [List.mem_filter, decide_eq_true_eq]
        constructor
        · rintro ⟨he, rfl⟩
          exact ⟨⟨he, same⟩, rfl⟩
        · rintro ⟨⟨he, -⟩, hj⟩
          exact ⟨he, hj⟩
    · intro appId code j
      show (without (old.appId, old.code) r.byCode).lookup (appId, code) = some j ↔ _
      simp only [List.mem_filter, decide_eq_true_eq]
      by_cases same : (appId, code) = (old.appId, old.code)
      · obtain ⟨rfl, rfl⟩ := Prod.mk.inj same
        rw [lookup_without_self]
        constructor
        · intro impossible
          cases impossible
        · rintro ⟨e, ⟨he, ne⟩, -, happ, hcode⟩
          rw [h.eq_of_code he hold happ hcode] at ne
          exact absurd hid ne
      · rw [lookup_without_ne same, h.byCode appId code j]
        constructor
        · rintro ⟨e, he, hj, happ, hcode⟩
          refine ⟨e, ⟨he, fun gone => same ?_⟩, hj, happ, hcode⟩
          rw [← h.eq_of_id he hold (gone.trans hid.symm), happ, hcode]
        · rintro ⟨e, ⟨he, -⟩, rest⟩
          exact ⟨e, he, rest⟩

/-- A registry with a live definition upserted holds it in place of the one of its id, if no other
one has its code. -/
theorem upsert (h : r.Holds entities) {e : Entity} (live : e.deleted = false)
    (free : ∀ d ∈ entities, d.appId = e.appId → d.code = e.code → d.id = e.id) :
    (r.upsert e).Holds (e :: entities.filter fun d => d.id ≠ e.id) := by
  have removed := h.remove e.id
  unfold Registry.upsert
  rw [live]
  constructor
  · intro id d
    show List.lookup id ((e.id, e) :: (r.remove e.id).byId) = some d ↔ _
    rw [List.lookup_cons]
    by_cases same : id = e.id
    · subst same
      simp only [beq_self_eq_true, Option.some.injEq, List.mem_cons, List.mem_filter,
        decide_eq_true_eq]
      constructor
      · rintro rfl
        exact ⟨Or.inl rfl, rfl⟩
      · rintro ⟨rfl | ⟨-, ne⟩, hid⟩
        · rfl
        · exact absurd hid ne
    · have other : (id == e.id) = false := by simpa using same
      rw [other]
      show (r.remove e.id).byId.lookup id = some d ↔ _
      rw [removed.byId id d, List.mem_cons]
      constructor
      · rintro ⟨hd, hid⟩
        exact ⟨Or.inr hd, hid⟩
      · rintro ⟨rfl | hd, hid⟩
        · exact absurd hid.symm same
        · exact ⟨hd, hid⟩
  · intro appId code id
    show List.lookup (appId, code)
      (((e.appId, e.code), e.id) :: without (e.appId, e.code) (r.remove e.id).byCode) = some id ↔ _
    rw [List.lookup_cons]
    by_cases same : (appId, code) = (e.appId, e.code)
    · rw [same]
      obtain ⟨rfl, rfl⟩ := Prod.mk.inj same
      simp only [beq_self_eq_true, Option.some.injEq]
      constructor
      · rintro rfl
        exact ⟨e, List.mem_cons_self, rfl, rfl, rfl⟩
      · rintro ⟨d, hd, hid, happ, hcode⟩
        rcases List.mem_cons.mp hd with rfl | hd
        · exact hid
        · obtain ⟨hd, ne⟩ := List.mem_filter.mp hd
          have sameId := free d hd happ hcode
          simp [sameId] at ne
    · have other : ((appId, code) == (e.appId, e.code)) = false := by simpa using same
      rw [other]
      show (without (e.appId, e.code) (r.remove e.id).byCode).lookup (appId, code) = some id ↔ _
      rw [lookup_without_ne same, removed.byCode appId code id]
      constructor
      · rintro ⟨d, hd, rest⟩
        exact ⟨d, List.mem_cons_of_mem _ hd, rest⟩
      · rintro ⟨d, hd, hid, happ, hcode⟩
        rcases List.mem_cons.mp hd with rfl | hd
        · exact absurd (by rw [happ, hcode]) same
        · exact ⟨d, hd, hid, happ, hcode⟩

end Holds

/-- Definitions of which no two share an id, and no two a code in an application. -/
def Distinct (entities : List Entity) : Prop :=
  entities.Pairwise fun d e => d.id ≠ e.id ∧ (d.appId = e.appId → d.code ≠ e.code)

theorem foldl_upsert_holds {r : Registry} {held : List Entity} (h : r.Holds held)
    (entities : List Entity) (live : ∀ e ∈ entities, e.deleted = false)
    (distinct : Distinct (held ++ entities)) :
    (entities.foldl Registry.upsert r).Holds (held ++ entities) := by
  induction entities generalizing r held with
  | nil => simpa using h
  | cons e rest ih =>
    have parts := List.pairwise_append.mp distinct
    have apart : ∀ d ∈ held, d.id ≠ e.id ∧ (d.appId = e.appId → d.code ≠ e.code) :=
      fun d hd => parts.2.2 d hd e List.mem_cons_self
    have step : (r.upsert e).Holds (held ++ [e]) := by
      refine (h.upsert (live e List.mem_cons_self)
        fun d hd happ hcode => absurd hcode ((apart d hd).2 happ)).congr fun d => ?_
      have kept : held.filter (fun d => d.id ≠ e.id) = held := by
        rw [List.filter_eq_self]
        intro d hd
        simpa using (apart d hd).1
      rw [kept, List.mem_append, List.mem_singleton, List.mem_cons, or_comm]
    have rejoined : held ++ e :: rest = (held ++ [e]) ++ rest := by simp
    rw [List.foldl_cons, rejoined]
    refine ih step (fun d hd => live d (List.mem_cons_of_mem _ hd)) ?_
    rw [← rejoined]
    exact distinct

/-- A registry that is made from live definitions holds them. -/
theorem ofList_holds {entities : List Entity} (live : ∀ e ∈ entities, e.deleted = false)
    (distinct : Distinct entities) : (ofList entities).Holds entities :=
  foldl_upsert_holds empty_holds entities live distinct

end EntityEngine.Registry
