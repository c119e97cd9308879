import EntityEngine.Proofs.Json.Reread
import EntityEngine.Proofs.Query.StatementText
import EntityEngine.Proofs.Sql.StoredValue
import EntityEngine.Proofs.Sql.WrittenNumber
import EntityEngine.Store.Documents

/-! What the row of a document shows under a name, and what a statement reads there. Both go by the
declared names in one way. But the row shows what is read of the stored text as JSON, while the
statement looks at the text itself; only doubles come out of the two as different values. -/

namespace EntityEngine

open Number Sql Store

variable {r : Record} {e : Entity} {name : String} {v : Json}

/-! ### Rows of documents -/

namespace Record

/-- Values that are put in place leave the others. -/
theorem get?_insertAll {entries : List (String × Json)} {key : String}
    (other : ∀ p ∈ entries, p.1 ≠ key) (m : ValueMap) :
    (entries.foldl (fun row p => ValueMap.insert p.1 p.2 row) m).get? key = m.get? key := by
  induction entries generalizing m with
  | nil => rfl
  | cons p entries ih =>
    rw [List.foldl_cons, ih fun q hq => other q (List.mem_cons_of_mem p hq)]
    exact ValueMap.get?_insert_of_ne p.2 m (other p List.mem_cons_self).symm

theorem get?_insertAll_of_mem {entries : List (String × Json)} {p : String × Json}
    (distinct : (entries.map Prod.fst).Nodup) (hp : p ∈ entries) (m : ValueMap) :
    (entries.foldl (fun row p => ValueMap.insert p.1 p.2 row) m).get? p.1 = some p.2 := by
  induction entries generalizing m with
  | nil => cases hp
  | cons q entries ih =>
    rw [List.map_cons, List.nodup_cons] at distinct
    rcases List.mem_cons.mp hp with rfl | hp
    · have other : ∀ q ∈ entries, q.1 ≠ p.1 := fun q hq same =>
        distinct.1 (by rw [← same]; exact List.mem_map_of_mem hq)
      rw [List.foldl_cons, get?_insertAll other]
      exact ValueMap.get?_insert_self p.1 p.2 m
    · exact ih distinct.2 hp _

/-- A row shows the values of the document as it has them. -/
theorem get?_row_of_member (member : Query.IsMember e name) :
    (r.row e).get? name = r.data.get? name := by
  refine get?_insertAll (fun p hp own => ?_) r.data
  obtain ⟨mem, undeclared⟩ := List.mem_filter.mp hp
  replace undeclared : (!e.declares p.1) = true := undeclared
  rw [own] at undeclared
  rcases member with declared | other
  · rw [declared] at undeclared
    cases undeclared
  · simp only [systemValues, List.mem_cons, List.not_mem_nil, or_false] at mem
    rcases mem with rfl | rfl | rfl | rfl | rfl <;> simp [← own, Query.storedNames] at other

theorem get?_row_of_declares {key : String} (declared : e.declares key = true) :
    (r.row e).get? key = r.data.get? key := get?_row_of_member (Or.inl declared)

theorem get?_row_of_system {p : String × Json} (hp : p ∈ r.systemValues)
    (undeclared : e.declares p.1 = false) : (r.row e).get? p.1 = some p.2 := by
  have distinct : (r.systemValues.map Prod.fst).Nodup :=
    (by decide : ["id", "version", "status", "created_at", "updated_at"].Nodup)
  refine get?_insertAll_of_mem (distinct.sublist (List.filter_sublist.map _)) ?_ r.data
  exact List.mem_filter.mpr ⟨hp, by simp [undeclared]⟩

/-- A row has no keys but those of the data and those of system values that are not declared. -/
theorem contains_row {key : String} (shown : (r.row e).contains key = true) :
    r.data.contains key = true ∨
      key ∈ ["id", "version", "status", "created_at", "updated_at"] ∧ e.declares key = false := by
  by_cases system : ∃ p ∈ r.systemValues.filter fun p => !e.declares p.1, p.1 = key
  · obtain ⟨p, hp, rfl⟩ := system
    obtain ⟨mem, undeclared⟩ := List.mem_filter.mp hp
    refine Or.inr ⟨?_, by simpa using undeclared⟩
    simp only [systemValues, List.mem_cons, List.not_mem_nil, or_false] at mem
    rcases mem with rfl | rfl | rfl | rfl | rfl <;> simp
  · push Not at system
    refine Or.inl ?_
    rw [ValueMap.contains, row, get?_insertAll system] at shown
    exact shown

end Record

theorem ValueMap.get?_map (m : ValueMap) (f : Json → Json) (key : String) :
    ValueMap.get? (m.map fun p => (p.1, f p.2)) key = (m.get? key).map f := by
  unfold ValueMap.get?
  induction m with
  | nil => rfl
  | cons p m ih =>
    rw [List.map_cons, List.lookup_cons, List.lookup_cons, ih]
    cases key == p.1 <;> rfl

/-! ### What is shown and what is read -/

namespace Store

/-- What queries show of a document under a name. -/
def shown? (r : Record) (e : Entity) (name : String) : Option Json := ((readBack r).row e).get? name

theorem shown?_member (member : Query.IsMember e name) :
    shown? r e name = (r.data.get? name).map Json.reread := by
  rw [shown?, Record.get?_row_of_member member]
  exact ValueMap.get?_map r.data Json.reread name

theorem operand_member (member : Query.IsMember e name) :
    (documentReader r (Query.documentOperand e name)).value =
      storedValue ((r.data.get? name).getD .null) := by
  rw [Query.documentOperand_member member]
  rfl

/-- A name that is no value of the document is one of a system value, shown as it is read, but for
times, which have more digits where they are stored. -/
theorem shown?_system (system : ¬ Query.IsMember e name) : ∃ v, shown? r e name = some v ∧
    v.isNull = false ∧ (documentReader r (Query.documentOperand e name)).value.isNull = false ∧
    (inInt64 r.version = true → name ≠ "created_at" → name ≠ "updated_at" →
      (documentReader r (Query.documentOperand e name)).value = .ofJson v) := by
  obtain ⟨undeclared, mem⟩ := not_or.mp system
  replace undeclared : e.declares name = false := by simpa using undeclared
  have shown : ∀ v, (name, v) ∈ (readBack r).systemValues → shown? r e name = some v := fun v hv =>
    Record.get?_row_of_system hv undeclared
  have plain : Query.documentOperand e name =
      if name = "id" then .plain "record_id"
      else if Query.storedNames.contains name then .plain name else .member name := by
    rw [Query.documentOperand, undeclared, if_neg Bool.false_ne_true]
  rw [plain]
  replace mem : name ∈ ["id", "created_at", "updated_at", "version", "status"] := not_not.mp mem
  simp only [List.mem_cons, List.not_mem_nil, or_false] at mem
  rcases mem with rfl | rfl | rfl | rfl | rfl
  · exact ⟨_, shown _ (.head _), rfl, rfl, fun _ _ _ => rfl⟩
  · exact ⟨_, shown _ (.tail _ (.tail _ (.tail _ (.head _)))), rfl, rfl, fun _ no => absurd rfl no⟩
  · exact ⟨_, shown _ (.tail _ (.tail _ (.tail _ (.tail _ (.head _))))), rfl, rfl,
      fun _ _ no => absurd rfl no⟩
  · refine ⟨_, shown _ (.tail _ (.head _)), rfl, rfl, fun fits _ _ => ?_⟩
    exact (if_pos fits).symm
  · exact ⟨_, shown _ (.tail _ (.tail _ (.head _))), rfl, rfl, fun _ _ _ => rfl⟩

/-! ### Null -/

theorem storedValue_integer (n : Int) : (storedValue (.integer n)).isNull = false := by
  obtain ⟨m, read, -⟩ := exists_numeric?_integer n
  show ((numeric? (toString n)).getD .null).isNull = false
  rw [read]
  exact Value.isNull_numeralValue m

theorem storedValue_real {x : Float} (finite : isSpecial x = false) :
    (storedValue (.real x)).isNull = false := by
  obtain ⟨m, read⟩ := numeric?_real finite
  show ((numeric? (Json.real x).render).getD .null).isNull = false
  rw [read]
  exact Value.isNull_numeralValue m

/-- A value is null for statements exactly if it is read back as null. -/
theorem isNull_storedValue (v : Json) : (storedValue v).isNull = v.reread.isNull := by
  -- The text of a number is never read as null.
  have number : ∀ {w : Json} {c : Char} {t : List Char}, w.render.toList = c :: t →
      c = '-' ∨ isDigit c = true → w.isNull = false → w.reread.isNull = false := by
    intro w c t start first some
    have other := Json.parse?_number_ne start first
    unfold Json.reread
    cases read : Json.parse? w.render with
    | none => exact some
    | some u =>
      rw [read] at other
      cases u with
      | null => exact absurd rfl other
      | _ => rfl
  cases v with
  | null => rw [Json.reread_of_plain (v := .null) trivial]; rfl
  | bool b => rw [Json.reread_of_plain (v := .bool b) trivial]; cases b <;> rfl
  | text s => rw [Json.reread_of_plain (v := .text s) trivial]; rfl
  | array vs =>
    obtain ⟨ws, eq⟩ := Json.reread_array vs
    rw [eq]
    rfl
  | object es =>
    obtain ⟨fs, eq⟩ := Json.reread_object es
    rw [eq]
    rfl
  | integer n =>
    obtain ⟨c, t, start, first⟩ := Json.Reading.start_of_integer n
    rw [storedValue_integer, number (w := .integer n) (String.toList_ofList.trans start) first rfl]
  | real x =>
    cases finite : isSpecial x with
    | false =>
      obtain ⟨c, t, start, first⟩ := Json.start_of_real finite
      rw [storedValue_real finite, number (w := .real x) (String.toList_ofList.trans start) first rfl]
    | true =>
      have text : (Json.real x).render = "null" := by
        show String.ofList (Json.realChars x) = _
        rw [Json.realChars, finite]
        rfl
      have none : numeric? "null" = none := by decide +kernel
      have null : Json.parse? "null" = some .null := by decide +kernel
      show ((numeric? (Json.real x).render).getD .null).isNull = _
      rw [Json.reread, text, none, null]
      rfl

/-- A statement reads null under a name exactly if the row shows no value there, or null. -/
theorem isNull_operand (r : Record) (e : Entity) (name : String) :
    (documentReader r (Query.documentOperand e name)).value.isNull =
      ((shown? r e name).getD .null).isNull := by
  by_cases member : Query.IsMember e name
  · rw [operand_member member, shown?_member member, isNull_storedValue]
    cases r.data.get? name with
    | none => rw [Option.getD_none, Json.reread_of_plain (v := .null) trivial]; rfl
    | some v => rfl
  · obtain ⟨v, shown, given, read, -⟩ := shown?_system (r := r) member
    rw [shown, read]
    exact given.symm

end Store

/-! ### Values -/

/-- The number that the database reads in the text of a double is the one that is read of it as
JSON, and the text of an array or an object is that of what is read of it. -/
def Json.ReadsAlike : Json → Prop
  | .real x => (numeric? (Json.real x).render).getD .null = .ofJson (Json.real x).reread
  | .array vs => (Json.array vs).reread.render = (Json.array vs).render
  | .object es => (Json.object es).reread.render = (Json.object es).render
  | _ => True

theorem Json.readsAlike_of_plain (plain : v.IsPlain) : v.ReadsAlike := by
  cases v with
  | real x => exact plain.elim
  | array vs => exact congrArg render (reread_of_plain plain)
  | object es => exact congrArg render (reread_of_plain plain)
  | _ => trivial

/-- A statement reads in the text of a value what is shown of it, exactly if both read it alike. -/
theorem Store.storedValue_eq_iff (fits : ∀ n, v = .integer n → inInt64 n = true) :
    storedValue v = .ofJson v.reread ↔ v.ReadsAlike := by
  cases v with
  | null => exact iff_of_true (by rw [Json.reread_of_plain (v := .null) trivial]; rfl) trivial
  | bool b => exact iff_of_true (by rw [Json.reread_of_plain (v := .bool b) trivial]; rfl) trivial
  | text s => exact iff_of_true (by rw [Json.reread_of_plain (v := .text s) trivial]; rfl) trivial
  | real x => exact Iff.rfl
  | integer n =>
    have small := fits n rfl
    refine iff_of_true ?_ trivial
    show (numeric? (toString n)).getD .null = _
    rw [numeric?_integer small, Json.reread_of_plain (v := .integer n) small]
    exact (if_pos small).symm
  | array vs =>
    obtain ⟨ws, eq⟩ := Json.reread_array vs
    show Value.text (Json.array vs).render = _ ↔ (Json.array vs).reread.render = _
    rw [eq]
    exact ⟨fun same => (Value.text.inj same).symm, fun same => congrArg Value.text same.symm⟩
  | object es =>
    obtain ⟨fs, eq⟩ := Json.reread_object es
    show Value.text (Json.object es).render = _ ↔ (Json.object es).reread.render = _
    rw [eq]
    exact ⟨fun same => (Value.text.inj same).symm, fun same => congrArg Value.text same.symm⟩

end EntityEngine
