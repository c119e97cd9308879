import EntityEngine.Proofs.Identifier
import EntityEngine.Proofs.Number.Numeral
import EntityEngine.Proofs.Sql.Comparison

/-! Texts that filters take as numbers, and what the database takes them for. A filter leaves out all
white space around a numeral and rounds it to the nearest double; the database leaves out ASCII's
white space alone, and its doubles are rounded step by step. -/

namespace EntityEngine

open Number Sql

/-! ### Numerals -/

namespace Number.Numeral

variable {s : List Char} {m : Numeral}

/-- What starts with none of the characters of a numeral is none. -/
theorem scan_of_other {c : Char} (other : isDigit c = false ∧ c ≠ '-' ∧ c ≠ '+' ∧ c ≠ '.')
    (r : List Char) : scan (c :: r) = none := by
  obtain ⟨digit, minus, plus, point⟩ := other
  have signed : sign (c :: r) = (false, c :: r) := by
    rw [sign_cons, if_neg minus, if_neg plus]
  have fraction : scanFraction (c :: r) = (none, c :: r) := by rw [scanFraction_cons, if_neg point]
  have taken : (c :: r).takeWhile isDigit = [] := by simp [digit]
  have dropped : (c :: r).dropWhile isDigit = c :: r := by simp [digit]
  unfold scan
  rw [signed]
  simp only [taken, dropped, fraction, List.isEmpty_nil, Option.getD_none, Bool.and_self, if_true]

theorem scan_of_digits {negative : Bool} {digits : List Char} (signed : sign s = (negative, digits))
    (any : digits ≠ []) (all : digits.all isDigit = true) :
    scan s = some (⟨negative, digits, none, none⟩, []) := by
  have taken : digits.takeWhile isDigit = digits :=
    List.takeWhile_eq_self_iff.mpr (List.all_eq_true.mp all)
  have dropped : digits.dropWhile isDigit = [] :=
    List.dropWhile_eq_nil_iff.mpr (List.all_eq_true.mp all)
  have given : digits.isEmpty = false := by simpa using any
  unfold scan
  rw [signed]
  simp only [taken, dropped, scanFraction, scanExponent, given, Bool.false_and,
    if_neg Bool.false_ne_true]

theorem rest_of_scanFraction (h : (scanFraction s).1 = none) : (scanFraction s).2 = s := by
  cases s with
  | nil => rfl
  | cons c r =>
    rw [scanFraction_cons] at h ⊢
    split
    · rename_i point
      rw [if_pos point] at h
      cases h
    · rfl

theorem rest_of_scanExponent (h : (scanExponent s).1 = none) : (scanExponent s).2 = s := by
  unfold scanExponent at h ⊢
  split
  · rfl
  · split
    · rename_i mark
      simp only [if_pos mark] at h
      simp only
      split
      · rfl
      · rename_i digits
        split at h
        · rename_i none
          exact absurd none digits
        · cases h
    · rfl

/-- A whole text that is an integer is a sign and digits. -/
theorem digits_of_scan (h : scan s = some (m, [])) (integer : m.isInteger = true) :
    sign s = (m.negative, m.whole) ∧ m.whole ≠ [] ∧ m.whole.all isDigit = true := by
  cases signed : sign s with
  | mk negative digits =>
    unfold scan at h
    rw [signed] at h
    simp only at h
    split at h
    · cases h
    · rename_i any
      obtain ⟨rfl, rest⟩ := Prod.mk.inj (Option.some.inj h)
      obtain ⟨noFraction, noExponent⟩ := Bool.and_eq_true_iff.mp integer
      have fraction : (scanFraction (digits.dropWhile isDigit)).1 = none :=
        Option.isNone_iff_eq_none.mp noFraction
      rw [rest_of_scanExponent (Option.isNone_iff_eq_none.mp noExponent),
        rest_of_scanFraction fraction] at rest
      have all := List.dropWhile_eq_nil_iff.mp rest
      have taken : digits.takeWhile isDigit = digits := List.takeWhile_eq_self_iff.mpr all
      refine ⟨Prod.ext rfl taken.symm, ?_, ?_⟩
      · show digits.takeWhile isDigit ≠ []
        rw [taken]
        rintro rfl
        have none : (scanFraction ([] : List Char)).1 = none := rfl
        simp [none] at any
      · show (digits.takeWhile isDigit).all isDigit = true
        rw [taken]
        exact List.all_eq_true.mpr all

end Number.Numeral

namespace Number

variable {s : String} {m : Numeral}

theorem scan_of_int64? {k : Int} (h : int64? s = some k) :
    ∃ m, Numeral.scan s.toList = some (m, []) ∧ numeralValue m = .integer k ∧ m.toInteger = k := by
  cases signed : Numeral.sign s.toList with
  | mk negative digits =>
    unfold int64? at h
    rw [signed] at h
    simp only at h
    split at h
    · cases h
    · rename_i given
      simp only [Bool.or_eq_true, Bool.not_eq_true', not_or, Bool.not_eq_true, Bool.not_eq_false,
        List.isEmpty_eq_false_iff] at given
      split at h
      · rename_i fits
        obtain rfl := Option.some.inj h
        exact ⟨_, Numeral.scan_of_digits signed given.1 given.2, if_pos fits, rfl⟩
      · cases h

theorem int64?_of_scan (h : Numeral.scan s.toList = some (m, [])) (integer : m.isInteger = true)
    (fits : inInt64 m.toInteger = true) : int64? s = some m.toInteger := by
  obtain ⟨signed, any, all⟩ := Numeral.digits_of_scan h integer
  have given : m.whole.isEmpty = false := by simpa using any
  have value : Numeral.signedValue m.negative m.whole = m.toInteger := rfl
  unfold int64?
  rw [signed]
  simp only [given, all, value, fits, Bool.not_true, Bool.or_self, Bool.false_eq_true, if_false,
    if_true]

theorem scan_of_finite {x : Float} (h : finite? s = some x) :
    ∃ m, Numeral.scan s.toList = some (m, []) ∧ m.toDouble = x := by
  unfold finite? at h
  split at h
  · rename_i m scanned
    simp only at h
    split at h
    · cases h
    · exact ⟨m, scanned, Option.some.inj h⟩
  · cases h

end Number

/-- The number that a filter takes a text for, and what the database takes its numeral for: the same
integer, or two doubles. -/
theorem number?_cases (v : String) : number? v = none ∨
    ∃ m, Numeral.scan (Text.trim v).toList = some (m, []) ∧
      ((number? v = some (.integer m.toInteger) ∧ numeralValue m = .integer m.toInteger) ∨
        (number? v = some (.real m.toDouble) ∧ numeralValue m = .real m.countedDouble)) := by
  unfold number?
  simp only
  cases whole : int64? (Text.trim v) with
  | some n =>
    obtain ⟨m, scanned, value, rfl⟩ := scan_of_int64? whole
    exact Or.inr ⟨m, scanned, Or.inl ⟨rfl, value⟩⟩
  | none =>
    cases finite : finite? (Text.trim v) with
    | none => exact Or.inl rfl
    | some x =>
      obtain ⟨m, scanned, rfl⟩ := scan_of_finite finite
      refine Or.inr ⟨m, scanned, Or.inr ⟨rfl, if_neg fun integer => ?_⟩⟩
      obtain ⟨isInteger, fits⟩ := Bool.and_eq_true_iff.mp integer
      rw [int64?_of_scan scanned isInteger fits] at whole
      cases whole

theorem ne_text_of_number? {v : String} {n : Scalar} (number : number? v = some n) (s : String) :
    n ≠ .text s := by
  rcases number?_cases v with none | ⟨m, -, ⟨known, -⟩ | ⟨known, -⟩⟩
  · rw [none] at number
    cases number
  · rw [known] at number
    rw [← Option.some.inj number]
    exact Scalar.noConfusion
  · rw [known] at number
    rw [← Option.some.inj number]
    exact Scalar.noConfusion

/-! ### White space -/

/-- The white space in front of a text is ASCII's. -/
def StartsPlain (v : String) : Prop := Text.trimLeft v.toList = v.toList.dropWhile isSpace

theorem isBlank_of_isSpace {c : Char} (h : isSpace c = true) : Text.isBlank c = true := by
  unfold isSpace at h
  rcases Bool.or_eq_true_iff.mp h with space | range
  · rw [of_decide_eq_true space]
    rfl
  · simp only [Bool.and_eq_true, decide_eq_true_eq] at range
    simp [Text.isBlank, range]

/-- No white space is part of a numeral. -/
theorem not_numeral_of_isBlank {c : Char} (h : Text.isBlank c = true) : isDigit c = false ∧
    c ≠ '.' ∧ c ≠ 'e' ∧ c ≠ 'E' ∧ c ≠ '+' ∧ c ≠ '-' := by
  have other : ∀ d : Char, Text.isBlank d = false → c ≠ d := by
    rintro d visible rfl
    rw [h] at visible
    cases visible
  refine ⟨?_, other _ (by decide), other _ (by decide), other _ (by decide), other _ (by decide),
    other _ (by decide)⟩
  cases digit : isDigit c with
  | false => rfl
  | true =>
    have word : isIdentifierChar c = true := by
      rw [isDigit_eq] at digit
      simp [isIdentifierChar, Char.isAlphanum, digit]
    rw [not_blank_of_identifierChar word] at h
    cases h

theorem dropWhile_isSpace_cases (s : List Char) : Text.trimLeft s = s.dropWhile isSpace ∨
    ∃ c r, s.dropWhile isSpace = c :: r ∧ Text.isBlank c = true := by
  induction s with
  | nil => exact Or.inl rfl
  | cons c s ih =>
    cases space : isSpace c with
    | true =>
      have blank := isBlank_of_isSpace space
      rw [Text.trimLeft, List.dropWhile_cons_of_pos space, List.dropWhile_cons_of_pos blank]
      exact ih
    | false =>
      have ne : ¬ isSpace c = true := by simp [space]
      rw [List.dropWhile_cons_of_neg ne]
      cases blank : Text.isBlank c with
      | true => exact Or.inr ⟨c, s, rfl, blank⟩
      | false =>
        have ne : ¬ Text.isBlank c = true := by simp [blank]
        exact Or.inl (List.dropWhile_cons_of_neg ne)

/-- Behind a trimmed text there is white space only. -/
theorem trimLeft_eq (v : String) : ∃ blanks, blanks.all Text.isBlank = true ∧
    Text.trimLeft v.toList = (Text.trim v).toList ++ blanks := by
  refine ⟨((Text.trimLeft v.toList).reverse.takeWhile Text.isBlank).reverse, ?_, ?_⟩
  · rw [List.all_reverse]
    exact List.all_takeWhile
  · rw [Text.trim, String.toList_ofList, Text.trimRight, ← List.reverse_append,
      List.takeWhile_append_dropWhile, List.reverse_reverse]

/-! ### What the database takes a text for -/

variable {v : String} {m : Numeral}

theorem cast_of_startsPlain (plain : StartsPlain v)
    (h : Numeral.scan (Text.trim v).toList = some (m, [])) : cast (.text v) = numeralValue m := by
  obtain ⟨blanks, all, parts⟩ := trimLeft_eq v
  have ends : Numeral.Ends blanks := by
    intro c hc
    exact not_numeral_of_isBlank (List.all_eq_true.mp all c (List.mem_of_mem_head? hc))
  show numericStart v.toList = _
  rw [numericStart, ← plain, parts, Numeral.scan_append ends, h]
  rfl

/-- Other white space in front hides a numeral. -/
theorem cast_of_not_startsPlain (hidden : ¬ StartsPlain v) : cast (.text v) = .integer 0 := by
  rcases dropWhile_isSpace_cases v.toList with plain | ⟨c, r, cons, blank⟩
  · exact absurd plain hidden
  · obtain ⟨digit, point, -, -, plus, minus⟩ := not_numeral_of_isBlank blank
    show numericStart v.toList = _
    rw [numericStart, cons, Numeral.scan_of_other ⟨digit, minus, plus, point⟩]

/-- Every text counts as some number. -/
theorem exists_size_cast (v : String) : ∃ k, (cast (.text v)).size? = some k := by
  show ∃ k, (numericStart v.toList).size? = some k
  unfold numericStart
  split
  · unfold numeralValue
    split
    · exact ⟨_, rfl⟩
    · exact ⟨_, rfl⟩
  · exact ⟨_, rfl⟩

/-! ### When a text is found -/

/-- When a query for a text finds it in a document. A text that is no number always is; a number is
if both sides take the text for the same one. -/
inductive IsFoundInDocuments (v : String) : Prop
  | text (none : number? v = none)
  | integer {n : Int} (number : number? v = some (.integer n)) (plain : StartsPlain v)
  /-- Both ways of rounding lead to the same double. -/
  | real {x : Float} {m : Numeral} (number : number? v = some (.real x)) (plain : StartsPlain v)
      (numeral : Numeral.scan (Text.trim v).toList = some (m, []))
      (same : units m.countedDouble = units x)
  /-- A numeral that is hidden from the database counts as zero. -/
  | zero {n : Scalar} (number : number? v = some n) (hidden : ¬ StartsPlain v)
      (zero : (Value.ofScalar n).size? = some 0)

/-- When a query for a text finds it in a column of texts: a number only in the form in which the
database writes it. -/
inductive IsFoundInColumn (v : String) : Prop
  | text (none : number? v = none)
  | number {n : Scalar} (number : number? v = some n) (same : v = (Value.ofScalar n).toText)

theorem isFoundInColumn_iff {n : Scalar} (number : number? v = some n) :
    IsFoundInColumn v ↔ v = (Value.ofScalar n).toText := by
  constructor
  · intro found
    cases found with
    | text none => rw [number] at none; cases none
    | number other same =>
      rw [number] at other
      rw [Option.some.inj other]
      exact same
  · exact .number number

theorem isFoundInDocuments_iff {n : Scalar} (number : number? v = some n) :
    IsFoundInDocuments v ↔ (cast (.text v)).size? = (Value.ofScalar n).size? := by
  rcases number?_cases v with none | ⟨m, scanned, cases⟩
  · rw [none] at number
    cases number
  · by_cases plain : StartsPlain v
    · rw [cast_of_startsPlain plain scanned]
      rcases cases with ⟨known, value⟩ | ⟨known, value⟩
      · rw [known] at number
        obtain rfl := Option.some.inj number
        exact iff_of_true (.integer known plain) (congrArg Value.size? value)
      · rw [known] at number
        obtain rfl := Option.some.inj number
        rw [value]
        constructor
        · intro found
          cases found with
          | text none => rw [known] at none; cases none
          | integer other _ => rw [known] at other; cases other
          | real other _ numeral same =>
            rw [known] at other
            rw [scanned] at numeral
            obtain rfl := Scalar.real.inj (Option.some.inj other)
            obtain ⟨rfl, -⟩ := Prod.mk.inj (Option.some.inj numeral)
            exact congrArg some same
          | zero _ hidden _ => exact absurd plain hidden
        · intro same
          exact .real known plain scanned (Option.some.inj same)
    · rw [cast_of_not_startsPlain plain]
      have zero : (Value.integer 0).size? = some 0 := congrArg some (Int.zero_mul _)
      rw [zero]
      constructor
      · intro found
        cases found with
        | text none => rw [number] at none; cases none
        | integer _ other => exact absurd other plain
        | real _ other _ _ => exact absurd other plain
        | zero other _ size =>
          rw [number] at other
          obtain rfl := Option.some.inj other
          exact size.symm
      · intro size
        exact .zero number plain size.symm

end EntityEngine
