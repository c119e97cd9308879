import EntityEngine.Proofs.Outcome
import EntityEngine.Query.Plan
import Mathlib.Data.List.Forall2
import Mathlib.Data.Option.Basic

/-! The texts of the statements that answer a query. They depend on the shape of the filter and of
the order alone: two queries of one shape differ in the values of their placeholders, and nowhere
else. -/

namespace EntityEngine

open Sql

/-- Two filters of one shape: one test, or one comparison with literals that are both numbers or
both none, of fields that `same` takes for one. -/
inductive Filter.Alike (same : String → String → Prop) : Filter → Filter → Prop
  | test {f g : String} {t : TextTest} {v w : String} :
      same f g → Alike same (.test f t v) (.test g t w)
  | compare {f g : String} {op : Comparison} {v w : Literal} :
      same f g → v.number?.isSome = w.number?.isSome →
        Alike same (.compare f op v) (.compare g op w)

def OrderClause.Alike (same : String → String → Prop) (c d : OrderClause) : Prop :=
  same c.field d.field ∧ c.direction = d.direction

/-- Queries of one shape. What they skip, how many rows they want, and which fields they show or
summarize has no part in it. -/
structure QueryOptions.Alike (same : String → String → Prop) (o u : QueryOptions) : Prop where
  filter : Option.Rel (Filter.Alike same) o.filter u.filter
  order : List.Forall₂ (OrderClause.Alike same) o.orderBy u.orderBy
  count : o.count = u.count

/-- The name of a value of the document, and of no column of its row. -/
def Query.IsMember (e : Entity) (name : String) : Prop :=
  e.declares name = true ∨ name ∉ "id" :: storedNames

/-- Two names with one meaning on documents, up to which value of the document it is. -/
def Query.SameOnDocuments (e : Entity) (f g : String) : Prop :=
  f = g ∨ IsMember e f ∧ IsMember e g

/-- The texts of a selection: of the statement that gives the rows, and of the one that counts
them, where a count is wanted. -/
def Sql.Selection.texts (s : Selection) (count : Bool) : String × Option String :=
  (s.render.text, if count then some s.renderCount.text else none)

variable {e : Entity}

namespace Sql

theorem Fragment.join_text {separator : String} {parts others : List Fragment}
    (same : parts.map Fragment.text = others.map Fragment.text) :
    (join separator parts).text = (join separator others).text :=
  congrArg (Text.join separator) same

theorem OrderTerm.render_text {t u : OrderTerm}
    (operand : t.operand.render.text = u.operand.render.text)
    (direction : t.direction = u.direction) : t.render.text = u.render.text := by
  simp only [render, operand, direction]

/-- Selections from one source whose conditions and terms have the same texts have the same texts
themselves: limit and offset are placeholders. -/
theorem Selection.texts_eq {s u : Selection} (source : s.source = u.source)
    (columns : s.columns = u.columns)
    (conditions : s.conditions.map (Fragment.text ∘ Condition.render) =
      u.conditions.map (Fragment.text ∘ Condition.render))
    (order : s.order.map (Fragment.text ∘ OrderTerm.render) =
      u.order.map (Fragment.text ∘ OrderTerm.render)) (count : Bool) :
    s.texts count = u.texts count := by
  have empty : s.conditions.isEmpty = u.conditions.isEmpty := by
    rw [← List.isEmpty_map, conditions, List.isEmpty_map]
  have wheres : s.whereFragment.text = u.whereFragment.text := by
    have joined : (Fragment.join " AND " (s.conditions.map Condition.render)).text =
        (Fragment.join " AND " (u.conditions.map Condition.render)).text :=
      Fragment.join_text (by rw [List.map_map, List.map_map, conditions])
    unfold whereFragment
    rw [empty]
    split
    · rfl
    · simp only [joined]
  have orders : s.orderFragment.text = u.orderFragment.text := by
    unfold orderFragment
    apply Fragment.join_text
    rw [List.map_map, List.map_map, order]
  have rows : s.render.text = u.render.text := by
    unfold render
    dsimp only
    rw [columns, source, wheres, orders]
  have counted : s.renderCount.text = u.renderCount.text := by
    unfold renderCount
    dsimp only
    rw [source, wheres]
  rw [texts, texts, rows, counted]

end Sql

namespace Query

theorem documentOperand_member {name : String} (h : IsMember e name) :
    documentOperand e name = .member name := by
  unfold documentOperand
  rcases h with declared | other
  · rw [if_pos declared]
  · obtain ⟨id, stored⟩ := not_or.mp (mt List.mem_cons.mpr other)
    have none : storedNames.contains name = false := by simpa using stored
    rw [if_neg id, none, if_neg Bool.false_ne_true, ite_self]

/-- The path of a value in the document is a placeholder. -/
theorem documentOperand_text {f g : String} (same : SameOnDocuments e f g) :
    (documentOperand e f).render.text = (documentOperand e g).render.text := by
  obtain rfl | ⟨left, right⟩ := same
  · rfl
  · rw [documentOperand_member left, documentOperand_member right]
    rfl

theorem documentCondition_text {same : String → String → Prop} {f g : Filter}
    (alike : f.Alike same g) {a b : Operand} (operands : a.render.text = b.render.text) :
    (documentCondition a f).render.text = (documentCondition b g).render.text := by
  unfold documentCondition
  cases alike with
  | test => simp only [Condition.render, operands]
  | @compare _ _ op v w _ numbers =>
    dsimp only
    cases left : v.number? with
    | some n =>
      obtain ⟨m, right⟩ := Option.isSome_iff_exists.mp (by rw [← numbers, left]; rfl)
      simp only [right, Condition.render, operands]
    | none =>
      have right : w.number? = none := by
        rw [← Option.not_isSome_iff_eq_none, ← numbers, left]
        exact Bool.false_ne_true
      simp only [right]
      split <;> simp only [Condition.render, operands]

theorem columnCondition_text {same : String → String → Prop} {f g : Filter}
    (alike : f.Alike same g) (operand : Operand) :
    (columnCondition operand f).render.text = (columnCondition operand g).render.text := by
  cases alike <;> simp only [columnCondition, Condition.render]

theorem field_alike {same : String → String → Prop} {f g : Filter} (alike : f.Alike same g) :
    same f.field g.field := by
  cases alike with
  | test fields => exact fields
  | compare fields _ => exact fields

/-- The texts of the conditions that a filter asks for, if there is one. -/
theorem conditions_text {same : String → String → Prop} {p q : Option Filter}
    (alike : Option.Rel (Filter.Alike same) p q) (make : Filter → Option Condition)
    (text : ∀ f g : Filter, f.Alike same g →
      (make f).map (Fragment.text ∘ Condition.render) =
        (make g).map (Fragment.text ∘ Condition.render)) :
    (p.bind make).toList.map (Fragment.text ∘ Condition.render) =
      (q.bind make).toList.map (Fragment.text ∘ Condition.render) := by
  cases alike with
  | none => rfl
  | @some f g filters =>
    rw [Option.bind_some, Option.bind_some, ← Option.toList_map, ← Option.toList_map,
      text f g filters]

theorem documentOrder_text {clauses others : List OrderClause}
    (alike : List.Forall₂ (OrderClause.Alike (SameOnDocuments e)) clauses others) :
    (if clauses.isEmpty then documentOrder
      else clauses.map fun c => ⟨documentOperand e c.field, c.direction⟩).map
        (Fragment.text ∘ OrderTerm.render) =
    (if others.isEmpty then documentOrder
      else others.map fun c => ⟨documentOperand e c.field, c.direction⟩).map
        (Fragment.text ∘ OrderTerm.render) := by
  have empty : clauses.isEmpty = others.isEmpty := by cases alike <;> rfl
  rw [empty]
  split
  · rfl
  · rw [List.map_map, List.map_map, ← List.forall₂_eq_eq_eq, List.forall₂_map_left_iff,
      List.forall₂_map_right_iff]
    exact alike.imp fun c d h => OrderTerm.render_text (documentOperand_text h.1) h.2

theorem orderBy_eq {clauses others : List OrderClause}
    (alike : List.Forall₂ (OrderClause.Alike (· = ·)) clauses others) : clauses = others := by
  rw [← List.forall₂_eq_eq_eq]
  refine alike.imp fun c d h => ?_
  obtain ⟨field, direction⟩ := h
  cases c
  cases d
  simp_all

/-- Whatever its literals, its page and its fields: a query has the texts of its shape, over the
documents of an entity as over its table. Over documents the names of values are not part of the
shape. -/
theorem texts_of_alike (e : Entity) (o u : QueryOptions) {m n : Nat} (paged : o.page = .ok m)
    (paged' : u.page = .ok n) :
    (o.Alike (SameOnDocuments e) u → ∃ s t, overDocuments e o = .ok s ∧ overDocuments e u = .ok t ∧
      s.texts o.count = t.texts u.count) ∧
    (o.Alike (· = ·) u → ∃ s t, overTable e o = .ok s ∧ overTable e u = .ok t ∧
      s.texts o.count = t.texts u.count) := by
  have before : o.offset = .ok ((m - 1) * o.top) := by rw [QueryOptions.offset, paged]; rfl
  have before' : u.offset = .ok ((n - 1) * u.top) := by rw [QueryOptions.offset, paged']; rfl
  constructor
  · intro alike
    refine ⟨_, _, by rw [overDocuments, before]; rfl, by rw [overDocuments, before']; rfl, ?_⟩
    rw [alike.count]
    apply Selection.texts_eq
    · rfl
    · rfl
    · have filters := conditions_text alike.filter
        (fun f => some (documentCondition (documentOperand e f.field) f)) fun f g h =>
          congrArg some (documentCondition_text h (documentOperand_text (field_alike h)))
      simp only [List.map_append, Option.map_eq_bind, Function.comp_def] at filters ⊢
      rw [filters]
    · exact documentOrder_text alike.order
  · intro alike
    refine ⟨_, _, by rw [overTable, before]; rfl, by rw [overTable, before']; rfl, ?_⟩
    rw [alike.count]
    apply Selection.texts_eq
    · rfl
    · rfl
    · refine conditions_text alike.filter _ fun f g h => ?_
      rw [field_alike h]
      cases e.column? g.field with
      | none => rfl
      | some column => exact congrArg some (columnCondition_text h _)
    · simp only [orderBy_eq alike.order]

/-- Notes without declared fields. -/
def notes : Entity where
  id := 1
  name := "Notes"
  code := "notes"
  table := "notes"
  displayName := none
  description := none
  appId := 1
  kind := .dynamic
  status := .active
  autoCreate := false
  tableCreated := false
  version := 1
  sortOrder := 0
  properties := none
  audit := .fresh "a" ⟨0, 0⟩
  deleted := false
  fields := []

/-- The options of a counted query with a filter and an order, for pages of some rows. -/
def counted (filter order top : String) : QueryOptions :=
  .ofParams [("$filter", filter), ("$orderby", order), ("$top", top), ("$count", "true")]

/-- Two values of documents under an order by them, one with a text that would end another. -/
theorem counted_alike : (counted "title eq 'Emma'" "title desc" "5").Alike (SameOnDocuments notes)
    (counted "author eq '0'' OR 1=1 --'" "author desc" "20") := by
  have member : SameOnDocuments notes "title" "author" :=
    Or.inr ⟨Or.inr (by decide), Or.inr (by decide)⟩
  have filter : (counted "title eq 'Emma'" "title desc" "5").filter =
      some (.compare "title" .eq (.quoted "Emma")) := by decide
  have filter' : (counted "author eq '0'' OR 1=1 --'" "author desc" "20").filter =
      some (.compare "author" .eq (.quoted "0' OR 1=1 --")) := by decide
  have order : (counted "title eq 'Emma'" "title desc" "5").orderBy =
      [⟨"title", .descending⟩] := by decide
  have order' : (counted "author eq '0'' OR 1=1 --'" "author desc" "20").orderBy =
      [⟨"author", .descending⟩] := by decide
  refine ⟨?_, ?_, by decide⟩
  · rw [filter, filter']
    exact .some (.compare member (by decide))
  · rw [order, order']
    exact .cons ⟨member, rfl⟩ .nil

/-- A column under two pages, compared with two numbers. -/
theorem counted_alike_column : (counted "version gt '1'" "id" "5").Alike (· = ·)
    (counted "version gt 2.5e1" "id" "20") := by
  have filter : (counted "version gt '1'" "id" "5").filter =
      some (.compare "version" .gt (.quoted "1")) := by decide
  have filter' : (counted "version gt 2.5e1" "id" "20").filter =
      some (.compare "version" .gt (.bare "2.5e1")) := by decide
  have order : (counted "version gt '1'" "id" "5").orderBy = [⟨"id", .ascending⟩] := by
    decide
  have order' : (counted "version gt 2.5e1" "id" "20").orderBy = [⟨"id", .ascending⟩] := by
    decide
  refine ⟨?_, ?_, by decide⟩
  · rw [filter, filter']
    exact .some (.compare rfl (by decide))
  · rw [order, order']
    exact .cons ⟨rfl, rfl⟩ .nil

theorem texts_of_alike_notes :
    (∃ s t, overDocuments notes (counted "title eq 'Emma'" "title desc" "5") = .ok s ∧
      overDocuments notes (counted "author eq '0'' OR 1=1 --'" "author desc" "20") = .ok t ∧
        s.texts true = t.texts true) ∧
    ∃ s t, overTable notes (counted "version gt '1'" "id" "5") = .ok s ∧
      overTable notes (counted "version gt 2.5e1" "id" "20") = .ok t ∧
        s.texts true = t.texts true :=
  ⟨(texts_of_alike notes _ _ (m := 1) (n := 1) (by decide +kernel) (by decide +kernel)).1
      counted_alike,
    (texts_of_alike notes _ _ (m := 1) (n := 1) (by decide +kernel) (by decide +kernel)).2
      counted_alike_column⟩

end Query

end EntityEngine
