import EntityEngine.Proofs.Registry
import Mathlib.Data.Set.Card

/-! Registries that are made by changes, one after the other, from an empty one. Whatever the changes
are, the index of ids answers with the definitions that were upserted last, and all that the index of
codes answers with is found under its id. The indexes mirror each other where codes are apart. -/

namespace EntityEngine.Registry

inductive Change where
  | upsert (e : Entity)
  | remove (id : Int)

namespace Change

/-- The id that a change is about. -/
def id : Change → Int
  | upsert e => e.id
  | remove i => i

/-- The definition that a change leaves under its id. -/
def left : Change → Option Entity
  | upsert e => if e.deleted then none else some e
  | remove _ => none

def apply (r : Registry) : Change → Registry
  | upsert e => r.upsert e
  | remove i => r.remove i

@[simp] theorem id_upsert (e : Entity) : (upsert e).id = e.id := rfl

theorem left_eq_some_iff {c : Change} {e : Entity} :
    c.left = some e ↔ c = .upsert e ∧ e.deleted = false := by
  cases c with
  | remove i => simp [left]
  | upsert d =>
    cases deleted : d.deleted with
    | true =>
      simp only [left, deleted, if_true, upsert.injEq, reduceCtorEq, false_iff]
      rintro ⟨rfl, live⟩
      rw [deleted] at live
      cases live
    | false =>
      simp only [left, deleted, Bool.false_eq_true, if_false, Option.some.injEq, upsert.injEq]
      constructor
      · rintro rfl
        exact ⟨rfl, deleted⟩
      · exact And.left

end Change

/-- The registry that some changes make, from the first to the last. -/
def after (changes : List Change) : Registry := changes.foldl Change.apply empty

theorem after_snoc (changes : List Change) (c : Change) :
    after (changes ++ [c]) = c.apply (after changes) := by
  rw [after, List.foldl_append]
  rfl

/-- The definition is upserted, and no later change is about its id. One that is deleted is taken
away by its upsert. -/
def IsLast (changes : List Change) (e : Entity) : Prop :=
  e.deleted = false ∧
    ∃ earlier later, changes = earlier ++ .upsert e :: later ∧ ∀ c ∈ later, c.id ≠ e.id

/-- No two definitions of different ids share a code in an application. -/
def CodesApart (r : Registry) : Prop :=
  ∀ i j d e, r.get? i = some d → r.get? j = some e → d.appId = e.appId → d.code = e.code → i = j

variable {r : Registry} {changes : List Change} {c : Change} {e : Entity}

/-! ### One change -/

/-- The registry with a definition in front of what it has, where its id is free. -/
def put (r : Registry) (e : Entity) : Registry where
  byId := (e.id, e) :: r.byId
  byCode := ((e.appId, e.code), e.id) :: without (e.appId, e.code) r.byCode

theorem upsert_eq (r : Registry) (e : Entity) :
    r.upsert e = if e.deleted then r.remove e.id else (r.remove e.id).put e := rfl

theorem get?_put (r : Registry) (e : Entity) (i : Int) :
    (r.put e).get? i = if i = e.id then some e else r.get? i := by
  show List.lookup i ((e.id, e) :: r.byId) = _
  by_cases own : i = e.id
  · simp [own]
  · rw [List.lookup_cons, beq_false_of_ne own, if_neg own]
    rfl

theorem byId_remove (r : Registry) (id : Int) : (r.remove id).byId = without id r.byId := by
  unfold remove
  cases found : r.get? id with
  | some old => rfl
  | none =>
    have others := List.lookup_eq_none_iff.mp found
    refine (List.filter_eq_self.mpr fun p hp => ?_).symm
    have other : id ≠ p.1 := by simpa using others p hp
    simpa using other.symm

theorem get?_remove (r : Registry) (id i : Int) :
    (r.remove id).get? i = if i = id then none else r.get? i := by
  rw [get?, byId_remove]
  split
  · next own => rw [own, lookup_without_self]
  · next other => exact lookup_without_ne other r.byId

theorem get?_apply (r : Registry) (c : Change) (i : Int) :
    (c.apply r).get? i = if i = c.id then c.left else r.get? i := by
  cases c with
  | remove id => exact get?_remove r id i
  | upsert e =>
    show (r.upsert e).get? i = if i = e.id then if e.deleted then none else some e else r.get? i
    rw [upsert_eq]
    cases e.deleted with
    | true => exact get?_remove r e.id i
    | false =>
      rw [if_neg Bool.false_ne_true, if_neg Bool.false_ne_true, get?_put, get?_remove]
      split <;> rfl

theorem exists_get?_iff {i : Int} : (∃ e, r.get? i = some e) ↔ i ∈ r.byId.map Prod.fst := by
  rw [← Option.isSome_iff_exists, ← Option.ne_none_iff_isSome, get?, Ne, List.lookup_eq_none_iff]
  simp [eq_comm (a := i)]

/-! ### What every change keeps -/

/-- Each definition is live and stands under its own id, of which there is one entry, and a code leads
to a definition that has it. -/
structure IsLinked (r : Registry) : Prop where
  own : ∀ i e, r.get? i = some e → e.id = i ∧ e.deleted = false
  leads : ∀ appId code i, r.byCode.lookup (appId, code) = some i →
    ∃ e, r.get? i = some e ∧ e.appId = appId ∧ e.code = code
  single : (r.byId.map Prod.fst).Nodup

namespace IsLinked

theorem empty : empty.IsLinked := by
  refine ⟨?_, ?_, List.nodup_nil⟩
  · intro i e found
    cases found
  · intro appId code i found
    cases found

theorem remove (h : r.IsLinked) (id : Int) : (r.remove id).IsLinked := by
  refine ⟨?_, ?_, ?_⟩
  · intro i e found
    rw [get?_remove] at found
    split at found
    · cases found
    · exact h.own i e found
  · intro appId code i found
    have removed := get?_remove r id i
    unfold Registry.remove at found removed ⊢
    cases held : r.get? id with
    | none =>
      rw [held] at found
      exact h.leads appId code i found
    | some old =>
      rw [held] at found removed
      simp only at found removed ⊢
      by_cases same : (appId, code) = (old.appId, old.code)
      · rw [same, lookup_without_self] at found
        cases found
      · rw [lookup_without_ne same] at found
        obtain ⟨e, got, rfl, rfl⟩ := h.leads appId code i found
        -- The code of the old definition leads nowhere any more, so this is another one.
        have other : i ≠ id := by
          rintro rfl
          rw [held] at got
          exact same (by rw [Option.some.inj got])
        exact ⟨e, by rw [removed, if_neg other, got], rfl, rfl⟩
  · rw [byId_remove]
    exact h.single.sublist (List.filter_sublist.map Prod.fst)

theorem put (h : r.IsLinked) (live : e.deleted = false) (free : r.get? e.id = none) :
    (r.put e).IsLinked := by
  refine ⟨?_, ?_, ?_⟩
  · intro i d found
    rw [get?_put] at found
    split at found
    · next own =>
      obtain rfl := Option.some.inj found
      exact ⟨own.symm, live⟩
    · exact h.own i d found
  · intro appId code i found
    replace found : List.lookup (appId, code)
      (((e.appId, e.code), e.id) :: without (e.appId, e.code) r.byCode) = some i := found
    rw [List.lookup_cons] at found
    by_cases same : (appId, code) = (e.appId, e.code)
    · obtain ⟨rfl, rfl⟩ := Prod.mk.inj same
      rw [beq_self_eq_true] at found
      obtain rfl := Option.some.inj found
      exact ⟨e, by rw [get?_put, if_pos rfl], rfl, rfl⟩
    · rw [beq_false_of_ne same] at found
      simp only [lookup_without_ne same] at found
      obtain ⟨d, got, rfl, rfl⟩ := h.leads appId code i found
      have other : i ≠ e.id := by
        rintro rfl
        rw [free] at got
        cases got
      exact ⟨d, by rw [get?_put, if_neg other, got], rfl, rfl⟩
  · refine List.nodup_cons.mpr ⟨fun mem => ?_, h.single⟩
    obtain ⟨d, held⟩ := exists_get?_iff.mpr mem
    rw [free] at held
    cases held

theorem apply (h : r.IsLinked) (c : Change) : (c.apply r).IsLinked := by
  cases c with
  | remove id => exact h.remove id
  | upsert e =>
    show (r.upsert e).IsLinked
    rw [upsert_eq]
    cases live : e.deleted with
    | true => exact h.remove e.id
    | false => exact (h.remove e.id).put live (by rw [get?_remove, if_pos rfl])

theorem after (changes : List Change) : (after changes).IsLinked := by
  induction changes using List.reverseRecOn with
  | nil => exact .empty
  | append_singleton changes c ih =>
    rw [after_snoc]
    exact ih.apply c

/-- What is found by a code has it, and is found by its id. -/
theorem getByCode? (h : r.IsLinked) {appId : Int} {code : String}
    (found : r.getByCode? appId code = some e) :
    e.deleted = false ∧ e.appId = appId ∧ e.code = code ∧ r.get? e.id = some e := by
  obtain ⟨i, led, got⟩ := Option.bind_eq_some_iff.mp found
  obtain ⟨d, held, app, named⟩ := h.leads appId code i led
  obtain rfl := Option.some.inj (held.symm.trans got)
  obtain ⟨rfl, live⟩ := h.own i d got
  exact ⟨live, app, named, got⟩

/-- There are as many entries as ids. -/
theorem size (h : r.IsLinked) : Set.encard {i | ∃ e, r.get? i = some e} = r.size := by
  have keys : {i | ∃ e, r.get? i = some e} = ((r.byId.map Prod.fst).toFinset : Set Int) := by
    ext i
    rw [Finset.mem_coe, List.mem_toFinset, Set.mem_ofPred_eq, exists_get?_iff]
  rw [keys, Set.encard_coe_eq_coe_finsetCard, List.toFinset_card_of_nodup h.single,
    List.length_map]
  rfl

end IsLinked

/-! ### All changes -/

theorem isLast_snoc : IsLast (changes ++ [c]) e ↔
    if e.id = c.id then c.left = some e else IsLast changes e := by
  rw [Change.left_eq_some_iff]
  constructor
  · rintro ⟨live, earlier, later, whole, others⟩
    cases later using List.reverseRecOn with
    | nil =>
      obtain ⟨-, rfl⟩ := List.append_singleton_inj.mp whole
      rw [Change.id_upsert, if_pos rfl]
      exact ⟨rfl, live⟩
    | append_singleton later d =>
      rw [← List.cons_append, ← List.append_assoc] at whole
      obtain ⟨rfl, rfl⟩ := List.append_singleton_inj.mp whole
      obtain ⟨rest, own⟩ := List.forall_mem_append.mp others
      rw [if_neg (own c List.mem_cons_self).symm]
      exact ⟨live, earlier, later, rfl, rest⟩
  · intro h
    split at h
    · obtain ⟨rfl, live⟩ := h
      exact ⟨live, changes, [], rfl, by simp⟩
    · next other =>
      obtain ⟨live, earlier, later, rfl, others⟩ := h
      refine ⟨live, earlier, later ++ [c], by simp, ?_⟩
      rw [List.forall_mem_append, List.forall_mem_singleton]
      exact ⟨others, Ne.symm other⟩

theorem get?_after {i : Int} :
    (after changes).get? i = some e ↔ IsLast changes e ∧ e.id = i := by
  induction changes using List.reverseRecOn with
  | nil =>
    constructor
    · intro got
      cases got
    · rintro ⟨⟨-, earlier, later, whole, -⟩, -⟩
      simp at whole
  | append_singleton changes c ih =>
    rw [after_snoc, get?_apply, isLast_snoc]
    by_cases own : i = c.id
    · rw [if_pos own]
      constructor
      · intro left
        obtain ⟨rfl, -⟩ := Change.left_eq_some_iff.mp left
        rw [Change.id_upsert, if_pos rfl]
        exact ⟨left, own.symm⟩
      · rintro ⟨last, rfl⟩
        rwa [if_pos own] at last
    · rw [if_neg own, ih]
      refine and_congr_left fun same => ?_
      rw [same, if_neg own]

/-- Where codes are apart after each change, the registry holds the definitions. -/
theorem exists_holds (apart : ∀ earlier, earlier <+: changes → (after earlier).CodesApart) :
    ∃ entities, (after changes).Holds entities := by
  induction changes using List.reverseRecOn with
  | nil => exact ⟨[], empty_holds⟩
  | append_singleton changes c ih =>
    obtain ⟨entities, h⟩ := ih fun earlier part => apart earlier (part.trans ⟨[c], rfl⟩)
    have now := apart _ List.prefix_rfl
    rw [after_snoc] at now ⊢
    cases c with
    | remove id => exact ⟨_, h.remove id⟩
    | upsert e =>
      cases live : e.deleted with
      | true =>
        have same : (after changes).upsert e = (after changes).remove e.id := by
          rw [upsert_eq, live, if_pos rfl]
        exact ⟨_, same ▸ h.remove e.id⟩
      | false =>
        refine ⟨_, h.upsert live fun d hd app code => ?_⟩
        by_contra other
        refine other (now d.id e.id d e ?_ ?_ app code)
        · rw [get?_apply]
          exact (if_neg other).trans (h.get?_iff.mpr ⟨hd, rfl⟩)
        · rw [get?_apply]
          exact (if_pos rfl).trans (Change.left_eq_some_iff.mpr ⟨rfl, live⟩)

/-- What is found by a code is live, has that code, and is found by its id. Where no change lets two
definitions share a code, what is found by its id is found by its code. Under each id stands the
definition that was upserted last, and the registry counts the ids. -/
theorem indexes_mirror (changes : List Change) :
    (∀ appId code e, (after changes).getByCode? appId code = some e →
      e.deleted = false ∧ e.appId = appId ∧ e.code = code ∧ (after changes).get? e.id = some e) ∧
    ((∀ earlier, earlier <+: changes → (after earlier).CodesApart) →
      ∀ i e, (after changes).get? i = some e →
        (after changes).getByCode? e.appId e.code = some e) ∧
    (∀ i e, (after changes).get? i = some e ↔ IsLast changes e ∧ e.id = i) ∧
    Set.encard {i | ∃ e, IsLast changes e ∧ e.id = i} = (after changes).size := by
  have linked := IsLinked.after changes
  refine ⟨fun appId code e => linked.getByCode?, fun apart i e got => ?_, fun i e => get?_after, ?_⟩
  · obtain ⟨entities, h⟩ := exists_holds apart
    exact h.getByCode?_iff.mpr ⟨(h.get?_iff.mp got).1, rfl, rfl⟩
  · rw [← linked.size]
    simp only [get?_after]

/-! ### Codes that change hands -/

theorem codesApart_of_entries (apart : ∀ p ∈ r.byId, ∀ q ∈ r.byId,
    p.2.appId = q.2.appId → p.2.code = q.2.code → p.1 = q.1) : r.CodesApart := by
  have entry {i : Int} {d : Entity} (got : r.get? i = some d) : (i, d) ∈ r.byId := by
    obtain ⟨before, behind, whole, -⟩ := List.lookup_eq_some_iff.mp got
    simp [whole]
  exact fun i j d e hd he => apart _ (entry hd) _ (entry he)

/-- A definition of application 1 that has no fields. -/
def bare (id : Int) (code : String) : Entity where
  id := id
  name := code
  code := code
  table := code
  displayName := none
  description := none
  appId := 1
  kind := .dynamic
  status := .active
  autoCreate := false
  tableCreated := false
  version := 1
  sortOrder := 0
  properties := none
  audit := .fresh "u" ⟨0, 0⟩
  deleted := false
  fields := []

/-- The first definition gives its code up, and the third one takes it. -/
def handedOn : List Change :=
  [.upsert (bare 1 "a"), .upsert (bare 2 "b"), .upsert (bare 1 "c"), .upsert (bare 3 "a"), .remove 2]

theorem indexes_mirror_handedOn :
    (∀ earlier, earlier <+: handedOn → (after earlier).CodesApart) ∧
      (after handedOn).get? 3 = some (bare 3 "a") ∧
      (after handedOn).getByCode? 1 "a" = some (bare 3 "a") := by
  have apart (earlier : List Change) (part : earlier <+: handedOn) :
      (after earlier).CodesApart := by
    have each : ∀ earlier ∈ handedOn.inits, ∀ p ∈ (after earlier).byId,
        ∀ q ∈ (after earlier).byId,
          p.2.appId = q.2.appId → p.2.code = q.2.code → p.1 = q.1 := by decide
    exact codesApart_of_entries (each earlier ((List.mem_inits _ _).mpr part))
  have found : (after handedOn).get? 3 = some (bare 3 "a") := by decide
  exact ⟨apart, found, (indexes_mirror handedOn).2.1 apart 3 _ found⟩

end EntityEngine.Registry
