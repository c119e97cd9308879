import EntityEngine.Proofs.Outcome
import EntityEngine.Proofs.Sql.Comparison
import EntityEngine.Sql.TableSpec

/-! Values as columns keep them. What a column has stored it would store again as it is, so a text
is compared with it under the affinity that it was stored under, and values that equal one text are
equal to each other. -/

namespace EntityEngine.Sql

open Number

/-! ### What statements give -/

/-- A value that a statement gives: an integer has 64 bits, and no byte string is among them. -/
def Value.IsGiven : Value → Prop
  | .integer n => inInt64 n = true
  | .blob _ => False
  | _ => True

namespace Value

variable {v : Value}

theorem isGiven_ofBool (b : Bool) : (ofBool b).IsGiven := by cases b <;> rfl

theorem isGiven_ofJson (v : Json) : (ofJson v).IsGiven := by
  cases v with
  | bool b => exact isGiven_ofBool b
  | integer n =>
    show (if inInt64 n then Value.integer n else .real (ofInteger n)).IsGiven
    split
    · assumption
    · trivial
  | _ => trivial

theorem isGiven_numeralValue (n : Numeral) : (numeralValue n).IsGiven := by
  unfold numeralValue
  split
  · rename_i fits
    exact (Bool.and_eq_true_iff.mp fits).2
  · trivial

theorem isGiven_numericStart (s : List Char) : (numericStart s).IsGiven := by
  unfold numericStart
  split
  · exact isGiven_numeralValue _
  · rfl

theorem isGiven_condense (h : v.IsGiven) : (condense v).IsGiven := by
  cases v with
  | real x =>
    unfold condense
    simp only
    split
    · rename_i n whole
      obtain ⟨-, inside⟩ := Option.filter_eq_some_iff.mp whole
      rw [Bool.and_eq_true, decide_eq_true_eq, decide_eq_true_eq] at inside
      refine Bool.and_eq_true_iff.mpr ⟨decide_eq_true ?_, decide_eq_true ?_⟩
      · omega
      · omega
    · trivial
  | _ => exact h

theorem numeral_of_numeric? {s : String} {w : Value} (h : numeric? s = some w) :
    ∃ n, w = numeralValue n := by
  unfold numeric? at h
  split at h
  · split at h
    · exact ⟨_, (Option.some.inj h).symm⟩
    · cases h
  · cases h

theorem isGiven_convert {a : Affinity} (h : v.IsGiven) : (a.convert v).IsGiven := by
  have text : ∀ s, (((numeric? s).map condense).getD (.text s)).IsGiven := by
    intro s
    cases found : numeric? s with
    | none => trivial
    | some w =>
      obtain ⟨n, rfl⟩ := numeral_of_numeric? found
      exact isGiven_condense (isGiven_numeralValue n)
  have real : ∀ x : Float, (condense (.real x)).IsGiven := fun x => isGiven_condense (v := .real x) trivial
  cases v with
  | text s => cases a <;> first | exact trivial | exact text s
  | real x => cases a <;> first | exact trivial | exact real x
  | integer n => cases a <;> first | exact trivial | exact h
  | null => cases a <;> exact trivial
  | blob b => exact h.elim

theorem isGiven_store {a : Affinity} (h : v.IsGiven) : (a.store v).IsGiven := by
  have converted := isGiven_convert (a := a) h
  cases a with
  | real =>
    show (toReal (Affinity.real.convert v)).IsGiven
    cases result : Affinity.real.convert v with
    | integer n => trivial
    | _ =>
      rw [result] at converted
      exact converted
  | _ => exact converted

theorem isGiven_onReals (x y : Float) : (Arithmetic.add.onReals x y).IsGiven := by
  show (ofReal (x + y)).IsGiven
  unfold ofReal
  split <;> trivial

/-- One more than a value. -/
theorem isGiven_next (v : Value) : (Arithmetic.add.apply v (.integer 1)).IsGiven := by
  unfold Arithmetic.apply
  split
  · trivial
  · simp only
    split
    · show (Arithmetic.add.fitted _ _ _).IsGiven
      unfold Arithmetic.fitted
      split
      · assumption
      · exact isGiven_onReals _ _
    · rename_i none _
      cases none
    · exact isGiven_onReals _ _

end Value

/-- A clock shows a text. -/
theorem ClockFunction.isGiven_shown {f : ClockFunction} {t : Moment} {v : Value}
    (clock : f = .date ∨ f = .time ∨ f = .dateTime) (h : f.shown t = some v) : v.IsGiven := by
  unfold shown at h
  obtain ⟨⟨n, d, c⟩, -, h⟩ := Option.bind_eq_some_iff.mp h
  rcases clock with rfl | rfl | rfl <;>
    rw [← Option.some.inj h] <;> trivial

theorem ClockFunction.isGiven_apply {f : ClockFunction} {setting : Setting} {v : Value}
    (clock : f = .date ∨ f = .time ∨ f = .dateTime) (h : f.apply setting [] = .ok v) :
    v.IsGiven := by
  have shown : ∃ moment : Option Moment, v = (moment.bind f.shown).getD .null := by
    rcases clock with rfl | rfl | rfl <;>
      obtain ⟨moment, -, h⟩ := bind_ok h <;> exact ⟨moment, (Except.ok.inj h).symm⟩
  obtain ⟨moment, rfl⟩ := shown
  cases found : moment.bind f.shown with
  | none => trivial
  | some w =>
    obtain ⟨t, -, shown⟩ := Option.bind_eq_some_iff.mp found
    exact isGiven_shown clock shown

/-- A default is given too. -/
theorem DefaultValue.isGiven_expression {d : DefaultValue} {setting : Setting} {v : Value}
    (h : d.expression.value setting = .ok v) : v.IsGiven := by
  cases d with
  | number numeral =>
    rw [← Except.ok.inj h]
    exact Value.isGiven_numericStart _
  | flag b =>
    rw [← Except.ok.inj h]
    exact Value.isGiven_ofBool b
  | text s =>
    rw [← Except.ok.inj h]
    trivial
  | clock word =>
    have called : ∀ (f : Function) (c : ClockFunction), (c = .date ∨ c = .time ∨ c = .dateTime) →
        f.apply .bytes setting [] = c.apply { setting with purpose := .default } [] →
          (Expression.call f .bytes .nil).value setting = .ok v → v.IsGiven := by
      intro f c clock same h
      obtain ⟨arguments, none, h⟩ := bind_ok h
      rw [← Except.ok.inj none, same] at h
      exact ClockFunction.isGiven_apply clock h
    unfold expression at h
    simp only at h
    split at h
    · exact called _ _ (Or.inl rfl) rfl h
    · split at h
      · exact called _ _ (Or.inr (Or.inl rfl)) rfl h
      · exact called _ _ (Or.inr (Or.inr rfl)) rfl h

/-! ### What columns keep -/

/-- A value as a column of some affinity keeps it. -/
structure Affinity.Keeps (a : Affinity) (v : Value) : Prop where
  given : v.IsGiven
  stored : a.store v = v

namespace Affinity

variable {a : Affinity} {v : Value}

theorem store_eq_convert (other : a ≠ .real) (v : Value) : a.store v = a.convert v := by
  cases a with
  | real => exact absurd rfl other
  | _ => rfl

theorem condense_cases (x : Float) :
    (∃ n, condense (.real x) = .integer n) ∨ condense (.real x) = .real x := by
  unfold condense
  simp only
  split
  · exact Or.inl ⟨_, rfl⟩
  · exact Or.inr rfl

/-- The affinities of numbers convert alike. -/
theorem convert_numeric (number : a.isNumeric = true) (v : Value) :
    a.convert v = numeric.convert v := by
  cases a with
  | numeric | integer | real => cases v <;> rfl
  | _ => cases number

/-- What is converted once stays so. -/
theorem convert_convert (a : Affinity) (v : Value) : a.convert (a.convert v) = a.convert v := by
  have real : ∀ x, numeric.convert (condense (.real x)) = condense (.real x) := by
    intro x
    rcases condense_cases x with ⟨n, whole⟩ | same
    · rw [whole]
      rfl
    · rw [same]
      exact same
  have number : numeric.convert (numeric.convert v) = numeric.convert v := by
    cases v with
    | text s =>
      have converted : numeric.convert (.text s) =
          ((numeric? s).map condense).getD (.text s) := rfl
      cases found : numeric? s with
      | none =>
        rw [found] at converted
        rw [converted]
        exact converted
      | some w =>
        rw [found] at converted
        rw [converted]
        obtain ⟨n, rfl⟩ := Value.numeral_of_numeric? found
        show numeric.convert (condense (numeralValue n)) = condense (numeralValue n)
        unfold numeralValue
        split
        · rfl
        · exact real _
    | real x => exact real x
    | _ => rfl
  cases own : a.isNumeric with
  | true => rw [convert_numeric own, convert_numeric own, number]
  | false =>
    cases a with
    | text => cases v <;> rfl
    | none | blob => rfl
    | _ => cases own

theorem keeps_store (other : a ≠ .real) (h : v.IsGiven) : a.Keeps (a.store v) := by
  refine ⟨Value.isGiven_store h, ?_⟩
  rw [store_eq_convert other, store_eq_convert other, convert_convert]

theorem keeps_null (a : Affinity) : a.Keeps .null := by
  refine ⟨trivial, ?_⟩
  cases a <;> rfl

theorem Keeps.convert (h : a.Keeps v) (other : a ≠ .real) : a.convert v = v := by
  rw [← store_eq_convert other]
  exact h.stored

end Affinity

/-! ### Null -/

namespace Value

theorem isNull_condense (v : Value) : (condense v).isNull = v.isNull := by
  cases v with
  | real x =>
    rcases Affinity.condense_cases x with ⟨n, eq⟩ | eq
    · rw [eq]
      rfl
    · rw [eq]
  | _ => rfl

theorem isNull_numeralValue (n : Numeral) : (numeralValue n).isNull = false := by
  unfold numeralValue
  split <;> rfl

/-- Nothing but null becomes null under an affinity. -/
theorem isNull_convert (a : Affinity) (v : Value) : (a.convert v).isNull = v.isNull := by
  have text : ∀ s, (((numeric? s).map condense).getD (.text s)).isNull = false := by
    intro s
    cases found : numeric? s with
    | none => rfl
    | some w =>
      obtain ⟨n, rfl⟩ := numeral_of_numeric? found
      exact (isNull_condense _).trans (isNull_numeralValue n)
  cases v with
  | text s => cases a <;> first | rfl | exact text s
  | real x => cases a <;> first | rfl | exact isNull_condense (.real x)
  | _ => cases a <;> rfl

/-- Nothing but null is stored as null. -/
theorem isNull_store (a : Affinity) (v : Value) : (a.store v).isNull = v.isNull := by
  rw [← isNull_convert a v]
  cases a with
  | real =>
    show (toReal (Affinity.real.convert v)).isNull = _
    cases Affinity.real.convert v <;> rfl
  | _ => rfl

theorem isNull_ofJson (v : Json) : (ofJson v).isNull = v.isNull := by
  cases v with
  | bool b => cases b <;> rfl
  | integer n =>
    show (if Number.inInt64 n then Value.integer n else _).isNull = _
    split <;> rfl
  | _ => rfl

/-- Every value but null counts as a number. -/
theorem isNull_cast (v : Value) : (cast v).isNull = v.isNull := by
  have start : ∀ s, (numericStart s).isNull = false := by
    intro s
    unfold numericStart
    split
    · exact isNull_numeralValue _
    · rfl
  cases v with
  | text s => exact start s.toList
  | blob bytes => exact start _
  | _ => rfl

end Value

/-! ### Comparisons with a text -/

/-- What two values have in common if they are equal: the kind, the size, and the bytes. -/
def Value.form (v : Value) : Nat × Option Int × Text.Bytes := (v.rank, v.size?, v.bytes)

theorem Value.orderBy_bytes_iff {v w : Value} : v.orderBy .bytes w = .eq ↔ v.form = w.form := by
  have ordered : v.orderBy .bytes w = v.order w := by
    cases v <;> cases w <;> rfl
  have number : ∀ {u : Value} {k : Int}, u.size? = some k → u.rank = 1 ∧ u.bytes = [] := by
    intro u k size
    cases u <;> first | exact ⟨rfl, rfl⟩ | cases size
  have other : ∀ {u : Value}, u.size? = none → u.rank ≠ 1 := by
    intro u size
    cases u with
    | integer _ | real _ => cases size
    | _ => simp [Value.rank]
  rw [ordered]
  unfold Value.order Value.form
  by_cases rank : v.rank = w.rank
  · rw [if_neg fun apart => apart rank, rank, Prod.mk.injEq, Prod.mk.injEq]
    cases first : v.size? with
    | some m =>
      obtain ⟨one, noBytes⟩ := number first
      cases second : w.size? with
      | some n =>
        rw [noBytes, (number second).2]
        simp only [Std.compare_eq_iff_eq, Option.some.injEq, true_and, and_true]
      | none => exact absurd (rank.symm.trans one) (other second)
    | none =>
      cases second : w.size? with
      | some n => exact absurd (rank.trans (number second).1) (other first)
      | none => simp only [Std.compare_eq_iff_eq, true_and]
  · rw [if_pos rank, Std.compare_eq_iff_eq]
    exact iff_of_false rank fun same => rank (congrArg Prod.fst same)

/-- A value beside a text is compared under the affinity of its column. -/
theorem Reading.compares_iff {r : Reading} {key : String} (kept : r.affinity.Keeps r.value)
    (other : r.affinity ≠ .real) (bytes : r.collation = .bytes) :
    r.compares .eq (.text key) = true ↔
      r.value.isNull = false ∧ r.value.form = (r.affinity.convert (.text key)).form := by
  have aligned : r.affinity.aligned r.value (.text key) =
      (r.value, r.affinity.convert (.text key)) := by
    have same := kept.convert other
    cases affinity : r.affinity <;> rw [affinity] at same <;>
      cases value : r.value <;> rw [value] at same <;> simp only [Affinity.aligned, same]
  have answer : answers .eq (r.value.orderBy .bytes (r.affinity.convert (.text key))) = true ↔
      r.value.form = (r.affinity.convert (.text key)).form :=
    answers_iff rfl Value.orderBy_bytes_iff
  rw [Reading.compares, aligned, bytes]
  simp only [Value.isNull, Bool.and_eq_true, Bool.not_eq_true', Bool.not_false, and_true, answer]

end EntityEngine.Sql
