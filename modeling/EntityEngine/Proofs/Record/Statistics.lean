import EntityEngine.Proofs.Record.Preparation
import EntityEngine.Record.Statistics
import EntityEngine.Store.Definitions
import Mathlib.Algebra.Order.BigOperators.Group.List
import Mathlib.Algebra.Order.Group.Nat
import Mathlib.Data.Finset.Card
import Mathlib.Data.List.Forall2

/-! Figures of a page, field by field. Those of a field are made of its own values alone. The order
of the rows matters to none of the figures of texts and to no count. Of a page in two parts they
follow from those of the parts, and the figures of texts agree with each other, as each of them
leaves out the same values. A sum of doubles, in contrast, depends on the order of the rows. -/

namespace EntityEngine

variable {fields : List Field} {f : Field} {rows page : List ValueMap} {α : Type} {xs ys : List α}

namespace FieldStats

/-! ### Values combined one by one -/

section Reduce

variable {op : α → α → α}

theorem reduce_none_iff : reduce op xs = none ↔ xs = [] := by
  cases xs <;> simp [reduce]

theorem reduce_append [Std.Associative op] (xs ys : List α) :
    reduce op (xs ++ ys) = (reduce op xs).merge op (reduce op ys) := by
  cases xs with
  | nil => rw [List.nil_append, reduce, Option.merge_none_left]
  | cons x xs =>
    cases ys with
    | nil => rw [List.append_nil, reduce, reduce, Option.merge_none_right]
    | cons y ys =>
      show some ((xs ++ y :: ys).foldl op x) = some (op (xs.foldl op x) (ys.foldl op y))
      rw [List.foldl_append, List.foldl_cons, List.foldl_assoc]

theorem reduce_perm [Std.Associative op] [Std.Commutative op] (same : xs.Perm ys) :
    reduce op xs = reduce op ys := by
  have comm : ∀ x y, op x y = op y x := Std.Commutative.comm
  have assoc : ∀ x y z, op (op x y) z = op x (op y z) := Std.Associative.assoc
  have swap : RightCommutative op := ⟨fun x y z => by rw [assoc, comm y, ← assoc]⟩
  induction same with
  | nil => rfl
  | cons x same => exact congrArg some (same.foldl_eq x)
  | swap x y l =>
    show some (l.foldl op (op y x)) = some (l.foldl op (op x y))
    rw [comm]
  | trans _ _ first second => exact first.trans second

theorem reduce_min (ns : List Nat) : reduce min ns = ns.min? := by
  cases ns <;> rfl

theorem reduce_max (ns : List Nat) : reduce max ns = ns.max? := by
  cases ns <;> rfl

end Reduce

/-! ### Distinct values -/

section Distinct

variable [DecidableEq α]

theorem nodup_eraseDups (xs : List α) : xs.eraseDups.Nodup := by
  -- The values after the first one are filtered before the next step, so the length is what falls.
  induction size : xs.length using Nat.strong_induction_on generalizing xs with
  | _ n ih =>
    cases xs with
    | nil => exact List.nodup_nil
    | cons x xs =>
      rw [List.eraseDups_cons, List.nodup_cons, List.mem_eraseDups]
      refine ⟨fun mem => ?_, ih _ ?_ _ rfl⟩
      · simpa using (List.mem_filter.mp mem).2
      · rw [← size, List.length_cons, Nat.lt_succ_iff]
        exact List.length_filter_le _ xs

theorem length_eraseDups (xs : List α) : xs.eraseDups.length = xs.toFinset.card := by
  rw [← List.toFinset_card_of_nodup (nodup_eraseDups xs)]
  congr 1
  ext x
  rw [List.mem_toFinset, List.mem_toFinset, List.mem_eraseDups]

end Distinct

/-! ### Figures of some values -/

variable {type : FieldType} {values others : List Json}

/-- The characters of some texts together. -/
def totalLength (ss : List String) : Nat := (ss.map String.length).foldl (· + ·) 0

/-- The same figures, or figures of equally many numbers. -/
def Alike : FieldStats → FieldStats → Prop
  | .numeric m _ _ _ _, .numeric n _ _ _ _ => m = n
  | a, b => a = b

/-- The third figures can be those of a page whose two parts have the first ones. Where only one of
the parts has a shortest or a longest text, it is that one's. -/
def Joins : FieldStats → FieldStats → FieldStats → Prop
  | .numeric m _ _ _ _, .numeric n _ _ _ _, .numeric k _ _ _ _ => k = m + n
  | .text m distinct shortest longest _, .text n distinct' shortest' longest' _,
      .text k different least greatest _ =>
    k = m + n ∧ max distinct distinct' ≤ different ∧ different ≤ distinct + distinct' ∧
      least = shortest.merge min shortest' ∧ greatest = longest.merge max longest'
  | _, _, _ => False

/-- Figures of texts that leave out the same values, the texts having some total length. -/
structure Agree (total count distinct : Nat) (shortest longest : Option Nat)
    (average : Option Float) : Prop where
  distinct_zero : count = 0 ↔ distinct = 0
  shortest_none : distinct = 0 ↔ shortest = none
  longest_none : distinct = 0 ↔ longest = none
  distinct_le : distinct ≤ count
  shortest_le : ∀ n, shortest = some n → count * n ≤ total
  le_longest : ∀ n, longest = some n → total ≤ count * n
  average_eq : average =
    if count = 0 then none else some (Float.ofNat total / Float.ofNat count)

theorem ofTexts_eq (ss : List String) : ofTexts ss =
    .text ss.length ss.toFinset.card (reduce min (ss.map String.length))
      (reduce max (ss.map String.length))
      (if ss.length = 0 then none
        else some (Float.ofNat (totalLength ss) / Float.ofNat ss.length)) := by
  rw [ofTexts, length_eraseDups]
  simp only [List.isEmpty_iff, List.length_eq_zero_iff, totalLength]

theorem ofTexts_perm {ss ts : List String} (same : ss.Perm ts) : ofTexts ss = ofTexts ts := by
  have lengths := same.map String.length
  rw [ofTexts_eq, ofTexts_eq, totalLength, totalLength, same.length_eq, lengths.foldl_eq,
    List.toFinset_eq_of_perm _ _ same, reduce_perm lengths, reduce_perm lengths]

theorem ofTexts_append (ss ts : List String) :
    (ofTexts ss).Joins (ofTexts ts) (ofTexts (ss ++ ts)) := by
  rw [ofTexts_eq, ofTexts_eq, ofTexts_eq, List.length_append, List.map_append, reduce_append,
    reduce_append, List.toFinset_append]
  refine ⟨rfl, max_le ?_ ?_, Finset.card_union_le _ _, rfl, rfl⟩
  · exact Finset.card_le_card Finset.subset_union_left
  · exact Finset.card_le_card Finset.subset_union_right

theorem ofTexts_agree (ss : List String) : ∃ count distinct shortest longest average,
    ofTexts ss = .text count distinct shortest longest average ∧
      Agree (totalLength ss) count distinct shortest longest average := by
  have none_iff (op : Nat → Nat → Nat) :
      ss.toFinset.card = 0 ↔ reduce op (ss.map String.length) = none := by
    rw [reduce_none_iff, List.map_eq_nil_iff, Finset.card_eq_zero, List.toFinset_eq_empty_iff]
  refine ⟨_, _, _, _, _, ofTexts_eq ss, {
    distinct_zero := ?_
    shortest_none := none_iff min
    longest_none := none_iff max
    distinct_le := List.toFinset_card_le ss
    shortest_le := fun n h => ?_
    le_longest := fun n h => ?_
    average_eq := rfl }⟩
  · rw [List.length_eq_zero_iff, Finset.card_eq_zero, List.toFinset_eq_empty_iff]
  · rw [reduce_min] at h
    have bound := List.card_nsmul_le_sum _ n (List.min?_eq_some_iff.mp h).2
    rwa [List.length_map, List.sum_eq_foldl_nat] at bound
  · rw [reduce_max] at h
    have bound := List.sum_le_card_nsmul _ n (List.max?_eq_some_iff.mp h).2
    rwa [List.length_map, List.sum_eq_foldl_nat] at bound

theorem ofValues?_numeric (numeric : type.isNumeric = true) :
    ofValues? type values = some (ofNumbers (values.filterMap number?)) := if_pos numeric

theorem ofValues?_textual (textual : type.isTextual = true) :
    ofValues? type values = some (ofTexts (values.filterMap text?)) := by
  cases type <;> first | rfl | cases textual

theorem ofValues?_perm (type : FieldType) (same : values.Perm others) :
    Option.Rel Alike (ofValues? type values) (ofValues? type others) := by
  unfold ofValues?
  split
  · exact .some (same.filterMap number?).length_eq
  · split
    · exact .some (ofTexts_perm (same.filterMap text?))
    · exact .none

/-- The same numbers in another order have another sum. -/
example : ofNumbers [1e16, 1, 1] ≠ ofNumbers [1, 1, 1e16] := by decide +kernel

theorem ofValues?_append (figured : type.isNumeric = true ∨ type.isTextual = true) :
    ∃ a b c, ofValues? type values = some a ∧ ofValues? type others = some b ∧
      ofValues? type (values ++ others) = some c ∧ a.Joins b c := by
  rcases figured with numeric | textual
  · refine ⟨_, _, _, ofValues?_numeric numeric, ofValues?_numeric numeric,
      ofValues?_numeric numeric, ?_⟩
    rw [List.filterMap_append]
    exact List.length_append
  · refine ⟨_, _, _, ofValues?_textual textual, ofValues?_textual textual,
      ofValues?_textual textual, ?_⟩
    rw [List.filterMap_append]
    exact ofTexts_append _ _

end FieldStats

/-! ### Figures of a page -/

open FieldStats

/-- The values that the rows of a page have under the name of a field. -/
def Field.valuesOn (f : Field) (rows : List ValueMap) : List Json :=
  rows.filterMap fun row => row.get? f.name

/-- The texts among them, with the numbers and truth values as they are written. -/
def Field.textsOn (f : Field) (rows : List ValueMap) : List String :=
  (f.valuesOn rows).filterMap text?

namespace Stats

/-- The figures that count under a name. -/
def figures? (s : Stats) (name : String) : Option FieldStats := s.reverse.lookup name

/-- The figures that count under a name are the ones that are shown under it. -/
theorem get?_toJson (s : Stats) (name : String) : ∃ m, s.toJson = .object m ∧
    ValueMap.get? m name = (s.figures? name).map FieldStats.toJson := by
  -- Entries are put in place one by one, so the induction is over every map built so far.
  have each : ∀ m : ValueMap, ((s.map fun p => (p.1, p.2.toJson)).foldl
      (fun m entry => ValueMap.insert entry.1 entry.2 m) m).get? name =
        ((s.figures? name).map FieldStats.toJson).or (m.get? name) := by
    induction s with
    | nil => exact fun m => rfl
    | cons p s ih =>
      intro m
      rw [List.map_cons, List.foldl_cons, ih, figures?, figures?, List.reverse_cons,
        List.lookup_append, List.lookup_cons]
      cases found : s.reverse.lookup name with
      | some v => rfl
      | none =>
        by_cases own : name = p.1
        · rw [own, ValueMap.get?_insert_self, beq_self_eq_true]
          rfl
        · rw [ValueMap.get?_insert_of_ne _ _ own, beq_eq_false_iff_ne.mpr own]
          rfl
  exact ⟨_, rfl, (each []).trans (Option.or_none)⟩

/-- Entries under the same names, with figures that are alike. -/
def Alike (s t : Stats) : Prop := List.Forall₂ (fun p q => p.1 = q.1 ∧ p.2.Alike q.2) s t

theorem aggregate_perm (same : page.Perm rows) (fields : List Field) :
    (aggregate page fields).Alike (aggregate rows fields) := by
  refine List.rel_filterMap (R := Eq) ?_ (List.forall₂_refl fields)
  rintro f _ rfl
  have own := ofValues?_perm f.type (same.filterMap fun row => row.get? f.name)
  beta_reduce
  generalize ofValues? f.type (page.filterMap fun row => row.get? f.name) = a at own ⊢
  generalize ofValues? f.type (rows.filterMap fun row => row.get? f.name) = b at own ⊢
  cases own with
  | some alike => exact .some ⟨rfl, alike⟩
  | none => exact .none

theorem lookup_filterMap (figures : Field → Option FieldStats)
    (distinct : (fields.map Field.name).Nodup) (hf : f ∈ fields) :
    (fields.filterMap fun g => (figures g).map (g.name, ·)).lookup f.name = figures f := by
  induction fields with
  | nil => cases hf
  | cons g fields ih =>
    rw [List.map_cons, List.nodup_cons] at distinct
    obtain ⟨first, distinct⟩ := distinct
    rcases List.mem_cons.mp hf with rfl | hf
    · cases own : figures f with
      | some v => simp [own]
      | none =>
        simp only [List.filterMap_cons, own, Option.map_none]
        rw [List.lookup_eq_none_iff]
        intro p hp
        obtain ⟨g, hg, made⟩ := List.mem_filterMap.mp hp
        obtain ⟨v, -, rfl⟩ := Option.map_eq_some_iff.mp made
        exact bne_iff_ne.mpr fun same => first (same ▸ List.mem_map_of_mem hg)
    · have other : f.name ≠ g.name := fun same => first (same ▸ List.mem_map_of_mem hf)
      rw [← ih distinct hf]
      cases own : figures g with
      | some v => simp [own, List.lookup_cons, beq_eq_false_iff_ne.mpr other]
      | none => simp [own]

theorem figures?_aggregate (distinct : (fields.map Field.name).Nodup) (hf : f ∈ fields) :
    (aggregate rows fields).figures? f.name = ofValues? f.type (f.valuesOn rows) := by
  rw [figures?, aggregate, ← List.filterMap_reverse]
  refine lookup_filterMap (fun g => ofValues? g.type (g.valuesOn rows)) ?_ ?_
  · rw [List.map_reverse, List.nodup_reverse]
    exact distinct
  · exact List.mem_reverse.mpr hf

end Stats

open Stats

/-- Figures of fields with names of their own. If the rows come in another order, every figure of
texts and every count is as before. The figures of a field depend on its own values alone. Those of
a page in two parts follow from those of the parts: counts add up, the shortest and the longest text
are those of the parts, and the distinct texts of the parts may have some in common. And the figures
of texts leave out the same values: where there is a text, the count times the shortest and times
the longest one bound the length of them all. -/
theorem figures_of_own_values (ownNames : (fields.map Field.name).Nodup)
    (rows more : List ValueMap) :
    (∀ page, page.Perm rows → (aggregate page fields).Alike (aggregate rows fields)) ∧
    ∀ f ∈ fields,
      (∀ others page, (others.map Field.name).Nodup → f ∈ others →
        ((f.valuesOn page).Perm (f.valuesOn rows) →
          Option.Rel FieldStats.Alike ((aggregate page others).figures? f.name)
            ((aggregate rows fields).figures? f.name)) ∧
        (f.valuesOn page = f.valuesOn rows →
          (aggregate page others).figures? f.name = (aggregate rows fields).figures? f.name)) ∧
      (f.type.isNumeric = true ∨ f.type.isTextual = true →
        ∃ a b c, (aggregate rows fields).figures? f.name = some a ∧
          (aggregate more fields).figures? f.name = some b ∧
          (aggregate (rows ++ more) fields).figures? f.name = some c ∧ a.Joins b c) ∧
      (f.type.isTextual = true →
        ∃ count distinct shortest longest average,
          (aggregate rows fields).figures? f.name =
            some (.text count distinct shortest longest average) ∧
          Agree (totalLength (f.textsOn rows)) count distinct shortest longest average) := by
  refine ⟨fun page same => aggregate_perm same fields, fun f hf => ⟨?_, ?_, ?_⟩⟩
  · intro others page named there
    rw [figures?_aggregate named there, figures?_aggregate ownNames hf]
    exact ⟨ofValues?_perm f.type, congrArg _⟩
  · intro figured
    rw [figures?_aggregate ownNames hf, figures?_aggregate ownNames hf,
      figures?_aggregate ownNames hf, Field.valuesOn, Field.valuesOn, Field.valuesOn,
      List.filterMap_append]
    exact ofValues?_append figured
  · intro textual
    obtain ⟨count, distinct, shortest, longest, average, told, agree⟩ :=
      ofTexts_agree (f.textsOn rows)
    refine ⟨count, distinct, shortest, longest, average, ?_, agree⟩
    rw [figures?_aggregate ownNames hf, ofValues?_textual textual, ← told]
    rfl

/-- Goods without a name or a price, and one whose price stands in a text. -/
def pricedRows : List ValueMap := [
  [("name", .text "ab")], [("name", .null), ("price", .text " 6.5 ")],
  [("name", .text "日本語です"), ("price", .integer 4)], [("name", .text "")]]

def nameField : Field :=
  Store.storedField 1 1 .template (.fresh "ann" ⟨0, 0⟩) 0 { name := "name", type := .string }

def priceField (type : FieldType) : Field :=
  Store.storedField 1 2 .template (.fresh "ann" ⟨0, 0⟩) 1 { name := "price", type }

/-- The null and the empty name count in none of the figures. -/
theorem figures_of_own_values_prices :
    ([nameField, priceField .decimal].map Field.name).Nodup ∧
    pricedRows.reverse.Perm pricedRows ∧
    (aggregate pricedRows.reverse [nameField, priceField .decimal]).Alike
      (aggregate pricedRows [nameField, priceField .decimal]) ∧
    nameField.valuesOn (pricedRows.map (·.without "price")) = nameField.valuesOn pricedRows ∧
    (aggregate (pricedRows.map (·.without "price")) [priceField .text, nameField]).figures?
      "name" = (aggregate pricedRows [nameField, priceField .decimal]).figures? "name" ∧
    (aggregate pricedRows [nameField, priceField .decimal]).figures? "name" =
      some (.text 2 2 (some 2) (some 5) (some 3.5)) ∧
    (FieldStats.text 2 2 (some 2) (some 5) (some 3.5)).Joins
      (.text 2 2 (some 2) (some 5) (some 3.5)) (.text 4 2 (some 2) (some 5) (some 3.5)) ∧
    Agree 7 2 2 (some 2) (some 5) (some 3.5) := by
  have distinct : ([nameField, priceField .decimal].map Field.name).Nodup := by decide +kernel
  have others : ([priceField .text, nameField].map Field.name).Nodup := by decide +kernel
  have values : nameField.valuesOn (pricedRows.map (·.without "price")) =
      nameField.valuesOn pricedRows := by decide +kernel
  have once : (aggregate pricedRows [nameField, priceField .decimal]).figures? "name" =
      some (.text 2 2 (some 2) (some 5) (some 3.5)) := by decide +kernel
  have twice : (aggregate (pricedRows ++ pricedRows) [nameField, priceField .decimal]).figures?
      "name" = some (.text 4 2 (some 2) (some 5) (some 3.5)) := by decide +kernel
  have total : totalLength (nameField.textsOn pricedRows) = 7 := by decide +kernel
  have name : nameField.name = "name" := by decide +kernel
  obtain ⟨order, own⟩ := figures_of_own_values distinct pricedRows pricedRows
  obtain ⟨elsewhere, joined, told⟩ := own nameField List.mem_cons_self
  have unchanged := (elsewhere [priceField .text, nameField] _ others (by simp)).2 values
  obtain ⟨a, b, c, ha, hb, hc, joins⟩ := joined (Or.inr rfl)
  obtain ⟨count, different, shortest, longest, average, found, agree⟩ := told rfl
  rw [name] at unchanged ha hb hc found
  cases ha.symm.trans once
  cases hb.symm.trans once
  cases hc.symm.trans twice
  cases found.symm.trans once
  rw [total] at agree
  exact ⟨distinct, List.reverse_perm _, order _ (List.reverse_perm _), values, unchanged, once,
    joins, agree⟩

end EntityEngine
