import EntityEngine.Sql.Evaluation

/-! When two values are equal in a comparison: texts if they are the same, numbers if they have the
same size, whatever their kinds. -/

namespace EntityEngine

namespace Text

/-- The bytes of a character, of which the first one tells how many there are. -/
theorem charBytes_cases (c : Char) :
    (c.toNat < 0x80 ∧ charBytes c = [c.toNat]) ∨
    (c.toNat < 0x800 ∧ charBytes c = [0xC0 + c.toNat / 64, 0x80 + c.toNat % 64]) ∨
    (c.toNat < 0x10000 ∧ charBytes c =
      [0xE0 + c.toNat / 4096, 0x80 + c.toNat / 64 % 64, 0x80 + c.toNat % 64]) ∨
    (c.toNat < 0x110000 ∧ charBytes c =
      [0xF0 + c.toNat / 262144, 0x80 + c.toNat / 4096 % 64, 0x80 + c.toNat / 64 % 64,
        0x80 + c.toNat % 64]) := by
  have valid : c.toNat < 0xd800 ∨ (0xdfff < c.toNat ∧ c.toNat < 0x110000) := c.valid
  unfold charBytes
  by_cases one : c.toNat < 0x80
  · exact Or.inl ⟨one, by simp [one]⟩
  · by_cases two : c.toNat < 0x800
    · exact Or.inr (Or.inl ⟨two, by simp [one, two]⟩)
    · by_cases three : c.toNat < 0x10000
      · exact Or.inr (Or.inr (Or.inl ⟨three, by simp [one, two, three]⟩))
      · exact Or.inr (Or.inr (Or.inr ⟨by omega, by simp [one, two, three]⟩))

/-- The bytes of a character tell it, and where those of the next one start. -/
theorem charBytes_append {c d : Char} {a b : Bytes} (h : charBytes c ++ a = charBytes d ++ b) :
    c = d ∧ a = b := by
  have codes : c.toNat = d.toNat ∧ a = b := by
    rcases charBytes_cases c with ⟨less, eq⟩ | ⟨less, eq⟩ | ⟨less, eq⟩ | ⟨less, eq⟩ <;>
      rcases charBytes_cases d with ⟨less', eq'⟩ | ⟨less', eq'⟩ | ⟨less', eq'⟩ | ⟨less', eq'⟩ <;>
      rw [eq, eq'] at h <;>
      simp only [List.cons_append, List.nil_append, List.cons.injEq] at h
    case inl.inl => exact h
    case inr.inl.inr.inl => exact ⟨by omega, h.2.2⟩
    case inr.inr.inl.inr.inr.inl => exact ⟨by omega, h.2.2.2⟩
    case inr.inr.inr.inr.inr.inr => exact ⟨by omega, h.2.2.2.2⟩
    all_goals omega
  exact ⟨Char.toNat_inj.mp codes.1, codes.2⟩

theorem charBytes_ne_nil (c : Char) : charBytes c ≠ [] := by
  rcases charBytes_cases c with ⟨-, eq⟩ | ⟨-, eq⟩ | ⟨-, eq⟩ | ⟨-, eq⟩ <;>
    rw [eq] <;> exact List.cons_ne_nil _ _

theorem textBytes_injective {s t : List Char} (h : textBytes s = textBytes t) : s = t := by
  induction s generalizing t with
  | nil =>
    cases t with
    | nil => rfl
    | cons d t =>
      rw [textBytes, textBytes, List.flatMap_cons, List.flatMap_nil] at h
      exact absurd (List.append_eq_nil_iff.mp h.symm).1 (charBytes_ne_nil d)
  | cons c s ih =>
    cases t with
    | nil =>
      rw [textBytes, textBytes, List.flatMap_cons, List.flatMap_nil] at h
      exact absurd (List.append_eq_nil_iff.mp h).1 (charBytes_ne_nil c)
    | cons d t =>
      rw [textBytes, textBytes, List.flatMap_cons, List.flatMap_cons] at h
      obtain ⟨rfl, rest⟩ := charBytes_append h
      rw [ih rest]

end Text

namespace Sql

open Number

/-! ### Numbers -/

/-- A double that is an integer has its size. -/
theorem units_of_toInteger? {x : Float} {n : Int} (h : toInteger? x = some n) :
    integerUnits n = units x := by
  unfold toInteger? at h
  split at h
  · cases h
  · split at h
    · rename_i multiple
      have divides : (unitsInOne : Int) ∣ units x := by
        have magnitudes : (unitsInOne : Int) ∣ magnitude x :=
          Int.natCast_dvd_natCast.mpr (Nat.dvd_of_mod_eq_zero multiple)
        unfold units
        split
        · exact Int.dvd_neg.mpr magnitudes
        · exact magnitudes
      rw [← Option.some.inj h]
      exact Int.ediv_mul_cancel divides
    · cases h

theorem unitsInOne_pos : 0 < unitsInOne := by
  have powers : ∀ n : Nat, 0 < Nat.pow 2 n := fun n => Nat.pow_pos Nat.two_pos
  unfold unitsInOne
  apply powers

theorem integerUnits_inj {m n : Int} : integerUnits m = integerUnits n ↔ m = n := by
  have positive := unitsInOne_pos
  unfold integerUnits
  generalize unitsInOne = units at positive
  exact Int.mul_eq_mul_right_iff (by omega)

/-- A number in its smallest form has the same size. -/
theorem size_condense (x : Float) : (condense (.real x)).size? = some (units x) := by
  cases found : strictInteger? x with
  | none =>
    rw [condense, found]
    rfl
  | some n =>
    obtain ⟨whole, -⟩ := Option.filter_eq_some_iff.mp found
    rw [condense, found]
    exact congrArg some (units_of_toInteger? whole)

/-- What a number is compared as has its size. -/
theorem size_convert (n : Scalar) (number : ∀ s, n ≠ .text s) :
    (Affinity.numeric.convert (.ofScalar n)).size? = (Value.ofScalar n).size? := by
  cases n with
  | integer n => rfl
  | real x => exact size_condense x
  | text s => exact absurd rfl (number s)

theorem exists_size_ofScalar {n : Scalar} (number : ∀ s, n ≠ .text s) :
    ∃ k, (Value.ofScalar n).size? = some k := by
  cases n with
  | integer n => exact ⟨_, rfl⟩
  | real x => exact ⟨_, rfl⟩
  | text s => exact absurd rfl (number s)

theorem order_of_sizes {a b : Value} {m n : Int} (ha : a.size? = some m) (hb : b.size? = some n) :
    a.order b = compare m n := by
  have rank : ∀ {v : Value} {k : Int}, v.size? = some k → v.rank = 1 := by
    intro v k size
    cases v with
    | integer _ => rfl
    | real _ => rfl
    | null => cases size
    | text _ => cases size
    | blob _ => cases size
  unfold Value.order
  rw [rank ha, rank hb, ha, hb]
  rfl

/-! ### Equalities -/

/-- What an equality asks of two values: that they are the same, or that they are not. -/
def Asks (op : Comparison) (same : Prop) : Prop :=
  match op with
  | .eq => same
  | _ => ¬ same

variable {op : Comparison}

theorem answers_iff (equality : op.isOrdering = false) {o : Ordering} {same : Prop}
    (h : o = .eq ↔ same) : answers op o = true ↔ Asks op same := by
  cases op with
  | eq =>
    rw [answers, Asks, ← h]
    cases o <;> simp
  | ne =>
    show (!o.isEq) = true ↔ ¬ same
    rw [← h]
    cases o <;> simp
  | _ => cases equality

/-- Numbers are compared by their sizes. -/
theorem satisfies_sizes (equality : op.isOrdering = false) {a b : Value} {m n : Int}
    (ha : a.size? = some m) (hb : b.size? = some n) :
    satisfies op a b = true ↔ Asks op (m = n) := by
  have given : ∀ {v : Value} {k : Int}, v.size? = some k → v.isNull = false := by
    intro v k size
    cases v <;> first | rfl | cases size
  have order : a.order b = .eq ↔ m = n := by
    rw [order_of_sizes ha hb]
    exact Std.compare_eq_iff_eq
  rw [satisfies, given ha, given hb]
  exact answers_iff equality order

theorem orderBy_texts {s t : String} :
    (Value.text s).orderBy .bytes (.text t) = .eq ↔ s = t := by
  show compare (Text.textBytes s.toList) (Text.textBytes t.toList) = .eq ↔ s = t
  rw [Std.compare_eq_iff_eq]
  constructor
  · intro same
    exact String.toList_inj.mp (Text.textBytes_injective same)
  · rintro rfl
    rfl

/-- A text beside another one is compared as it is. -/
theorem compares_text (equality : op.isOrdering = false) {r : Reading} {s t : String}
    (value : r.value = .text s) (bytes : r.collation = .bytes)
    (kind : r.affinity = .none ∨ r.affinity = .text) :
    r.compares op (.text t) = true ↔ Asks op (s = t) := by
  have aligned : r.affinity.aligned r.value (.text t) = (.text s, .text t) := by
    rw [value]
    rcases kind with kind | kind <;> rw [kind] <;> rfl
  rw [Reading.compares, aligned, value, bytes]
  exact answers_iff equality orderBy_texts

/-- In a column of texts that holds no number, only the text itself is equal to a text. -/
theorem compares_textColumn {r : Reading} {t : String} (noNumber : r.value.size? = none)
    (bytes : r.collation = .bytes) (kind : r.affinity = .text) :
    r.compares .eq (.text t) = true ↔ r.value = .text t := by
  cases value : r.value with
  | integer n =>
    rw [value] at noNumber
    cases noNumber
  | real x =>
    rw [value] at noNumber
    cases noNumber
  | text s =>
    rw [compares_text rfl value bytes (Or.inr kind), Asks, Value.text.injEq]
  | null => simp [Reading.compares, value, Value.isNull]
  | blob b => simp [Reading.compares, value, kind, Affinity.aligned, Affinity.convert, Value.orderBy,
      Value.order, Value.rank, answers]

theorem compares_integer {r : Reading} {m n : Int} (value : r.value = .integer m)
    (kind : r.affinity = .integer) : r.compares .eq (.integer n) = true ↔ m = n := by
  have aligned : r.affinity.aligned r.value (.integer n) = (.integer m, .integer n) := by
    rw [value, kind]
    rfl
  have order : (Value.integer m).orderBy r.collation (.integer n) = .eq ↔ m = n := by
    show compare (integerUnits m) (integerUnits n) = .eq ↔ m = n
    rw [Std.compare_eq_iff_eq, integerUnits_inj]
  have answer : answers .eq ((Value.integer m).orderBy r.collation (.integer n)) = true ↔
      Asks .eq (m = n) := answers_iff rfl order
  rw [Reading.compares, aligned, value]
  exact answer

/-- A number beside a text in a column of texts is compared as its text. -/
theorem compares_number (equality : op.isOrdering = false) {r : Reading} {s : String}
    (value : r.value = .text s) (bytes : r.collation = .bytes) (kind : r.affinity = .text)
    {n : Scalar} (number : ∀ t, n ≠ .text t) :
    r.compares op (.ofScalar n) = true ↔ Asks op (s = (Value.ofScalar n).toText) := by
  have aligned : r.affinity.aligned r.value (.ofScalar n) =
      (.text s, .text (Value.ofScalar n).toText) := by
    rw [value, kind]
    cases n with
    | integer n => rfl
    | real x => rfl
    | text t => exact absurd rfl (number t)
  have given : (Value.ofScalar n).isNull = false := by cases n <;> rfl
  rw [Reading.compares, aligned, value, bytes, given]
  exact answers_iff equality orderBy_texts

end Sql

end EntityEngine
