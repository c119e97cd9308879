import EntityEngine.Proofs.Query.FilterGrammar
import EntityEngine.Proofs.Text.Parts
import EntityEngine.Query.Options
import Mathlib.Data.List.Forall2

/-! The texts that write an order: one part for each clause, with single commas between them. A part
is a field and perhaps a direction, with white space between and around them. Any other text is
refused with its first part that writes no clause, and a query with such a text runs as one without
an order. -/

namespace EntityEngine

open Text

/-- The word that asks for a direction. -/
def Direction.word : Direction → String
  | ascending => "asc"
  | descending => "desc"

namespace OrderClause

/-- A clause as it is written, without white space around it. The direction stands in capitals or
small letters, and the ascending one may go unsaid. -/
inductive Form : OrderClause → List Char → Prop
  | plain {field : String} : isIdentifier field = true → Form ⟨field, .ascending⟩ field.toList
  | directed {field name : String} {d : Direction} {a : List Char} :
      isIdentifier field = true → a ≠ [] → Blanks a → sameFold d.word name = true →
      Form ⟨field, d⟩ (field.toList ++ (a ++ name.toList))

/-- A part of a text that writes a clause, with white space around it. -/
def Renders (c : OrderClause) (part : List Char) : Prop :=
  ∃ a w b, Blanks a ∧ c.Form w ∧ Blanks b ∧ part = a ++ (w ++ b)

/-- A text that writes clauses, one in each of its parts. -/
def RendersAll (cs : List OrderClause) (s : String) : Prop :=
  ∃ parts, parts ≠ [] ∧ s.toList = [','].intercalate parts ∧ List.Forall₂ Renders cs parts

/-- The first of the parts of a text that writes no clause. -/
def FirstOdd (s : String) (part : List Char) : Prop :=
  ∃ before after, s.toList = [','].intercalate (before ++ part :: after) ∧
    (∀ p ∈ before ++ part :: after, ',' ∉ p) ∧
    (∀ p ∈ before, ∃ c : OrderClause, c.Renders p) ∧ ∀ c : OrderClause, ¬ c.Renders part

end OrderClause

/-! ### Clauses -/

namespace Direction

variable {d : Direction} {name : String}

theorem parse?_iff : parse? name = some d ↔ sameFold d.word name = true := by
  rw [sameFold_iff]
  have same : fold d.word = d.word := by cases d <;> decide
  rw [same, parse?]
  constructor
  · intro read
    split at read
    · rename_i up
      rw [← Option.some.inj read, up]
      rfl
    · split at read
      · rename_i down
        rw [← Option.some.inj read, down]
        rfl
      · cases read
  · intro known
    rw [← known]
    cases d <;> decide

theorem isWord_of_sameFold (same : sameFold d.word name = true) : Filter.IsWord name := by
  refine .of_sameFold ⟨?_, List.all_eq_true.mp ?_⟩ ?_ same <;> cases d <;> decide

end Direction

theorem Filter.IsWord.notBlank {name : String} (h : Filter.IsWord name) :
    ∀ c ∈ name.toList, isBlank c = false := fun c hc => not_blank_of_identifierChar (h.all c hc)

namespace OrderClause

variable {c : OrderClause} {part w : List Char} {cs : List OrderClause} {s : String}

/-- A part is read as the clause that it writes. -/
theorem parse?_iff : parse? part = some c ↔ c.Renders part := by
  constructor
  · intro read
    unfold parse? at read
    split at read
    · rename_i field found
      obtain ⟨w, one, rfl⟩ := List.map_eq_singleton_iff.mp found
      obtain ⟨a, b, ha, -, -, -, rfl, none⟩ := words_cons_iff.mp one
      split at read
      · rename_i named
        rw [← Option.some.inj read]
        refine ⟨a, w, b, ha, ?_, words_nil_iff.mp none, rfl⟩
        simpa using Form.plain named
      · cases read
    · rename_i field direction found
      obtain ⟨w, rest, two, rfl, behind⟩ := List.map_eq_cons_iff.mp found
      obtain ⟨v, one, rfl⟩ := List.map_eq_singleton_iff.mp behind
      rw [one] at two
      obtain ⟨a, r, ha, -, -, stop, rfl, next⟩ := words_cons_iff.mp two
      obtain ⟨d, b, hd, filled, visible, -, rfl, none⟩ := words_cons_iff.mp next
      split at read
      · rename_i named
        obtain ⟨direction, known, rfl⟩ := Option.map_eq_some_iff.mp read
        refine ⟨a, w ++ (d ++ v), b, ha, ?_, words_nil_iff.mp none, by simp⟩
        have apart : d ≠ [] := by
          rintro rfl
          obtain ⟨c, u, rfl⟩ := List.exists_cons_of_ne_nil filled
          have blank := stop c rfl
          rw [visible c List.mem_cons_self] at blank
          cases blank
        simpa using Form.directed named apart hd (Direction.parse?_iff.mp known)
      · cases read
    · cases read
  · rintro ⟨a, w, b, ha, form, hb, rfl⟩
    have behind : ∀ c ∈ b.head?, isBlank c = true := fun c hc => hb c (List.mem_of_mem_head? hc)
    have last := words_nil_iff.mpr hb
    cases form with
    | @plain field named =>
      have word := Filter.IsWord.of_isIdentifier named
      have one : words (a ++ (field.toList ++ b)) = [field.toList] :=
        words_cons_iff.mpr ⟨a, b, ha, word.filled, word.notBlank, behind, rfl, last⟩
      rw [parse?, one]
      simp [named]
    | @directed field name d e named apart he same =>
      have word := Filter.IsWord.of_isIdentifier named
      have direction := Direction.isWord_of_sameFold same
      have stop : ∀ c ∈ (e ++ (name.toList ++ b)).head?, isBlank c = true := by
        obtain ⟨c, u, rfl⟩ := List.exists_cons_of_ne_nil apart
        simpa using he c List.mem_cons_self
      have one : words (e ++ (name.toList ++ b)) = [name.toList] :=
        words_cons_iff.mpr ⟨e, b, he, direction.filled, direction.notBlank, behind, rfl, last⟩
      have two : words (a ++ (field.toList ++ (e ++ name.toList) ++ b)) =
          [field.toList, name.toList] :=
        words_cons_iff.mpr ⟨a, _, ha, word.filled, word.notBlank, stop, by simp, one⟩
      rw [parse?, two]
      simp [named, Direction.parse?_iff.mpr same]

theorem comma_not_blank : isBlank ',' = false := by decide

theorem comma_not_mem {name : String} (word : Filter.IsWord name) : ',' ∉ name.toList := by
  intro hc
  have part := word.all _ hc
  revert part
  decide

theorem comma_not_mem_blanks {a : List Char} (blanks : Blanks a) : ',' ∉ a := by
  intro hc
  have blank := blanks _ hc
  rw [comma_not_blank] at blank
  cases blank

/-- No clause has a comma. -/
theorem Renders.no_comma (h : c.Renders part) : ',' ∉ part := by
  obtain ⟨a, w, b, ha, form, hb, rfl⟩ := h
  have inside : ',' ∉ w := by
    cases form with
    | plain named => exact comma_not_mem (.of_isIdentifier named)
    | directed named _ he same =>
      simp only [List.mem_append, not_or]
      exact ⟨comma_not_mem (.of_isIdentifier named), comma_not_mem_blanks he,
        comma_not_mem (Direction.isWord_of_sameFold same)⟩
  simp only [List.mem_append, not_or]
  exact ⟨comma_not_mem_blanks ha, inside, comma_not_mem_blanks hb⟩

/-! ### Lists of clauses -/

theorem parseAll_iff {parts : List (List Char)} :
    parseAll parts = .ok cs ↔ List.Forall₂ Renders cs parts := by
  induction parts generalizing cs with
  | nil =>
    rw [List.forall₂_nil_right_iff, parseAll, Except.ok.injEq]
    exact eq_comm
  | cons part parts ih =>
    rw [List.forall₂_cons_right_iff, parseAll]
    constructor
    · intro read
      split at read
      · cases read
      · rename_i c found
        obtain ⟨rest, others, read⟩ := bind_ok read
        exact ⟨c, rest, parse?_iff.mp found, ih.mp others, (Except.ok.inj read).symm⟩
    · rintro ⟨c, rest, first, others, rfl⟩
      rw [parse?_iff.mpr first, ih.mpr others]
      rfl

/-- The first part that is no clause is told, without the white space around it. -/
theorem parseAll_error_iff {parts : List (List Char)} {f : QueryFault} :
    parseAll parts = .error f ↔ ∃ before part after, parts = before ++ part :: after ∧
      (∀ p ∈ before, ∃ c : OrderClause, c.Renders p) ∧ (∀ c : OrderClause, ¬ c.Renders part) ∧
        f = .badOrder (trim (String.ofList part)) := by
  induction parts with
  | nil => simp [parseAll]
  | cons part parts ih =>
    rw [parseAll]
    cases found : parse? part with
    | none =>
      have odd : ∀ c : OrderClause, ¬ c.Renders part := by
        intro c renders
        rw [parse?_iff.mpr renders] at found
        cases found
      constructor
      · intro read
        exact ⟨[], part, parts, rfl, by simp, odd, (Except.error.inj read).symm⟩
      · rintro ⟨before, other, after, whole, clauses, -, rfl⟩
        cases before with
        | nil =>
          obtain ⟨rfl, -⟩ := List.cons.inj whole
          rfl
        | cons p before =>
          obtain ⟨rfl, -⟩ := List.cons.inj whole
          obtain ⟨c, renders⟩ := clauses _ List.mem_cons_self
          exact absurd renders (odd c)
    | some c =>
      have renders := parse?_iff.mp found
      have passed : (parseAll parts >>= fun cs => pure (c :: cs)) = .error f ↔
          parseAll parts = .error f := by
        cases parseAll parts with
        | error g => exact Iff.rfl
        | ok cs => exact ⟨fun read => (nomatch read), fun read => (nomatch read)⟩
      refine passed.trans (ih.trans ?_)
      constructor
      · rintro ⟨before, other, after, rfl, clauses, rest⟩
        exact ⟨part :: before, other, after, rfl,
          List.forall_mem_cons.mpr ⟨⟨c, renders⟩, clauses⟩, rest⟩
      · rintro ⟨before, other, after, whole, clauses, odd, rest⟩
        cases before with
        | nil =>
          obtain ⟨rfl, -⟩ := List.cons.inj whole
          exact absurd renders (odd c)
        | cons p before =>
          obtain ⟨rfl, rfl⟩ := List.cons.inj whole
          exact ⟨before, other, after, rfl, (List.forall_mem_cons.mp clauses).2, odd, rest⟩

theorem parseList_iff : parseList s = .ok cs ↔ RendersAll cs s := by
  rw [parseList, parseAll_iff]
  constructor
  · intro clauses
    obtain ⟨some, -, whole⟩ := splitAt_iff.mp (Eq.refl (splitAt ',' s.toList))
    exact ⟨_, some, whole, clauses⟩
  · rintro ⟨parts, some, whole, clauses⟩
    have apart : ∀ p ∈ parts, ',' ∉ p := by
      clear some whole
      induction clauses with
      | nil => exact fun p hp => nomatch hp
      | cons first _ ih => exact List.forall_mem_cons.mpr ⟨first.no_comma, ih⟩
    rwa [splitAt_iff.mpr ⟨some, apart, whole⟩]

theorem parseList_error_iff {f : QueryFault} : parseList s = .error f ↔
    ∃ part, FirstOdd s part ∧ f = .badOrder (trim (String.ofList part)) := by
  rw [parseList, parseAll_error_iff]
  constructor
  · rintro ⟨before, part, after, split, clauses, odd, told⟩
    obtain ⟨-, apart, whole⟩ := splitAt_iff.mp split
    exact ⟨part, ⟨before, after, whole, apart, clauses, odd⟩, told⟩
  · rintro ⟨part, ⟨before, after, whole, apart, clauses, odd⟩, told⟩
    exact ⟨before, part, after, splitAt_iff.mpr ⟨by simp, apart, whole⟩, clauses, odd, told⟩

theorem RendersAll.ne_nil (h : RendersAll cs s) : cs ≠ [] := by
  obtain ⟨parts, some, -, clauses⟩ := h
  rintro rfl
  exact some (List.forall₂_nil_left_iff.mp clauses)

/-- A text that writes clauses is more than white space. -/
theorem RendersAll.filled (h : RendersAll cs s) : isBlankText s = false := by
  obtain ⟨parts, some, whole, clauses⟩ := h
  obtain ⟨part, rest, rfl⟩ := List.exists_cons_of_ne_nil some
  obtain ⟨c, others, ⟨a, w, b, -, form, -, rfl⟩, -, -⟩ := List.forall₂_cons_right_iff.mp clauses
  have shown : ∃ x ∈ w, isBlank x = false := by
    have named : ∃ field : String, isIdentifier field = true ∧ field.toList ⊆ w := by
      cases form with
      | plain named => exact ⟨_, named, List.Subset.refl _⟩
      | directed named => exact ⟨_, named, List.subset_append_left _ _⟩
    obtain ⟨field, named, inside⟩ := named
    have word := Filter.IsWord.of_isIdentifier named
    obtain ⟨x, u, chars⟩ := List.exists_cons_of_ne_nil word.filled
    have hx : x ∈ field.toList := chars ▸ List.mem_cons_self
    exact ⟨x, inside hx, word.notBlank x hx⟩
  obtain ⟨x, hx, visible⟩ := shown
  have there : x ∈ s.toList := by
    rw [whole, List.intercalate]
    cases rest <;> simp [hx]
  rw [isBlankText, List.all_eq_false]
  exact ⟨x, there, by simp [visible]⟩

end OrderClause

/-! ### Options -/

namespace QueryOptions

variable {p q : Params} {s : String}

/-- What parameters ask for is told by each of them alone; the order and the fields to select have
one each. -/
theorem ofParams_of_lookup
    (agree : ∀ key, key ≠ "$orderby" → key ≠ "$select" → p.lookup key = q.lookup key) :
    ofParams p = { ofParams q with orderBy := orderOf p, select := selectOf p } := by
  have filled : filled? p "$filter" = filled? q "$filter" := by
    rw [filled?, filled?, agree "$filter" (by decide) (by decide)]
  have nat (key : String) (order : key ≠ "$orderby") (select : key ≠ "$select") :
      natOf? p key = natOf? q key := by
    rw [natOf?, natOf?, agree key order select]
  have truth (key : String) (order : key ≠ "$orderby") (select : key ≠ "$select") :
      isTrue p key = isTrue q key := by
    rw [isTrue, isTrue, agree key order select]
  simp only [ofParams, filterOf, topOf, filled, nat "$top" (by decide) (by decide),
    nat "$skip" (by decide) (by decide), truth "$count" (by decide) (by decide),
    truth "$stats" (by decide) (by decide)]

/-- A text that writes clauses gives the order of a query. -/
theorem orderBy_of_rendersAll {cs : List OrderClause} (asked : p.lookup "$orderby" = some s)
    (renders : OrderClause.RendersAll cs s) : (ofParams p).orderBy = cs := by
  have filled : filled? p "$orderby" = some s := by
    rw [filled?, asked, Option.filter, renders.filled]
    rfl
  show orderOf p = cs
  rw [orderOf, filled]
  simp only [OrderClause.parseList_iff.mpr renders]
  rfl

/-- A query whose order cannot be read is one without an order. -/
theorem ofParams_of_no_order (asked : p.lookup "$orderby" = some s)
    (odd : ∀ cs, ¬ OrderClause.RendersAll cs s)
    (agree : ∀ key, key ≠ "$orderby" → p.lookup key = q.lookup key)
    (none : q.lookup "$orderby" = none) : ofParams p = ofParams q := by
  have unread : (OrderClause.parseList s).toOption = Option.none := by
    cases read : OrderClause.parseList s with
    | error f => rfl
    | ok cs => exact absurd (OrderClause.parseList_iff.mp read) (odd cs)
  have order : orderOf p = orderOf q := by
    have left : orderOf p = [] := by
      rw [orderOf, filled?, asked, Option.filter]
      cases isBlankText s with
      | true => rfl
      | false =>
        simp only [Bool.not_false, if_true, unread]
        rfl
    have right : orderOf q = [] := by
      rw [orderOf, filled?, none]
      rfl
    rw [left, right]
  have select : selectOf p = selectOf q := by
    rw [selectOf, selectOf, agree "$select" (by decide)]
  rw [ofParams_of_lookup fun key other _ => agree key other, order, select]
  rfl

end QueryOptions

/-- A text is read as clauses exactly if it writes them, one in each of the parts between its
commas and in their order; so there is always one at least. Of any other text the first part that
writes no clause is told, without the white space around it, and a query with such a text asks for
what it would ask for without an order. -/
theorem order_grammar (s : String) :
    (∀ cs, OrderClause.parseList s = .ok cs ↔ OrderClause.RendersAll cs s) ∧
    (∀ cs, OrderClause.RendersAll cs s → cs ≠ []) ∧
    (∀ f, OrderClause.parseList s = .error f ↔
      ∃ part, OrderClause.FirstOdd s part ∧ f = .badOrder (trim (String.ofList part))) ∧
    ∀ p q : Params, p.lookup "$orderby" = some s → q.lookup "$orderby" = none →
      (∀ key, key ≠ "$orderby" → p.lookup key = q.lookup key) →
      (∀ cs, OrderClause.RendersAll cs s → (QueryOptions.ofParams p).orderBy = cs) ∧
        (∀ part, OrderClause.FirstOdd s part →
          QueryOptions.ofParams p = QueryOptions.ofParams q) := by
  refine ⟨fun cs => OrderClause.parseList_iff, fun cs => OrderClause.RendersAll.ne_nil,
    fun f => OrderClause.parseList_error_iff, fun p q asked none agree => ?_⟩
  refine ⟨fun cs => QueryOptions.orderBy_of_rendersAll asked, fun part first => ?_⟩
  refine QueryOptions.ofParams_of_no_order asked (fun cs renders => ?_) agree none
  have read := OrderClause.parseList_iff.mpr renders
  rw [OrderClause.parseList_error_iff.mpr ⟨part, first, rfl⟩] at read
  cases read

/-- Between the two commas there is no clause, so the query runs without an order. -/
theorem order_grammar_gap :
    OrderClause.parseList "price\tDESC,, name" = .error (.badOrder "") ∧
    QueryOptions.ofParams [("$top", "2"), ("$orderby", "price\tDESC,, name")] =
      QueryOptions.ofParams [("$top", "2")] := by
  obtain ⟨-, -, refused, options⟩ := order_grammar "price\tDESC,, name"
  have read : OrderClause.parseList "price\tDESC,, name" = .error (.badOrder "") := by
    decide +kernel
  obtain ⟨part, first, -⟩ := (refused _).mp read
  refine ⟨read, (options _ _ rfl rfl fun key other => ?_).2 part first⟩
  simp [List.lookup_cons, beq_eq_false_iff_ne.mpr other]

example : OrderClause.parseList "a\u2003desc , b" =
    .ok [⟨"a", .descending⟩, ⟨"b", .ascending⟩] := by decide +kernel

end EntityEngine
