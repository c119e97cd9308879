import EntityEngine.Number.Numeral
import Mathlib.Data.List.TakeWhile

/-! The numeral that a text starts with: it takes characters away, and what follows the text has no
part in it, unless that could go on a numeral. -/

namespace EntityEngine.Number

theorem isDigit_eq (c : Char) : isDigit c = c.isDigit := rfl

/-- Characters in front of a text that starts with none of a kind. -/
theorem takeWhile_append_stop {p : Char → Bool} {u : List Char}
    (stop : ∀ c ∈ u.head?, p c = false) (s : List Char) :
    (s ++ u).takeWhile p = s.takeWhile p ∧ (s ++ u).dropWhile p = s.dropWhile p ++ u := by
  induction s with
  | nil =>
    cases u with
    | nil => exact ⟨rfl, rfl⟩
    | cons c r => simp [stop c rfl]
  | cons d s ih =>
    cases h : p d with
    | false => simp [h]
    | true => simp [h, ih.1, ih.2]

namespace Numeral

theorem sign_cons (c : Char) (r : List Char) : sign (c :: r) =
    if c = '-' then (true, r) else if c = '+' then (false, r) else (false, c :: r) := by
  by_cases minus : c = '-'
  · rw [if_pos minus, minus]
    rfl
  · by_cases plus : c = '+'
    · rw [if_neg minus, if_pos plus, plus]
      rfl
    · rw [if_neg minus, if_neg plus]
      unfold sign
      split
      · rename_i eq
        exact absurd (List.cons.inj eq).1 minus
      · rename_i eq
        exact absurd (List.cons.inj eq).1 plus
      · rfl

theorem scanFraction_cons (c : Char) (r : List Char) : scanFraction (c :: r) =
    if c = '.' then (some (r.takeWhile isDigit), r.dropWhile isDigit) else (none, c :: r) := by
  by_cases point : c = '.'
  · rw [if_pos point, point]
    rfl
  · rw [if_neg point]
    unfold scanFraction
    split
    · rename_i eq
      exact absurd (List.cons.inj eq).1 point
    · rfl

/-! ### Lengths -/

theorem sign_length (s : List Char) : (sign s).2.length ≤ s.length := by
  unfold sign
  split <;> simp

theorem sign_of_digit {c : Char} (h : isDigit c = true) (r : List Char) :
    sign (c :: r) = (false, c :: r) := by
  have minus : c ≠ '-' := by
    rintro rfl
    exact absurd h (by decide)
  have plus : c ≠ '+' := by
    rintro rfl
    exact absurd h (by decide)
  rw [sign_cons, if_neg minus, if_neg plus]

theorem dropWhile_length (p : Char → Bool) (s : List Char) :
    (s.dropWhile p).length ≤ s.length := (List.dropWhile_sublist p).length_le

theorem scanFraction_length (s : List Char) : (scanFraction s).2.length ≤ s.length := by
  unfold scanFraction
  split
  · have := dropWhile_length isDigit ‹_›
    simp only [List.length_cons]
    omega
  · exact Nat.le_refl _

theorem scanExponent_length (s : List Char) : (scanExponent s).2.length ≤ s.length := by
  unfold scanExponent
  split
  · exact Nat.le_refl _
  · rename_i c r
    split
    · simp only
      split
      · exact Nat.le_refl _
      · have after := dropWhile_length isDigit (sign r).2
        have signed := sign_length r
        simp only [List.length_cons]
        omega
    · exact Nat.le_refl _

/-- A digit at the start is part of a numeral. -/
theorem scan_of_digit {c : Char} (h : isDigit c = true) (r : List Char) :
    ∃ n rest, scan (c :: r) = some (n, rest) ∧ rest.length ≤ r.length := by
  have whole : (c :: r).takeWhile isDigit = c :: r.takeWhile isDigit := by simp [h]
  have dropped : (c :: r).dropWhile isDigit = r.dropWhile isDigit := by simp [h]
  unfold scan
  rw [sign_of_digit h]
  simp only [whole, dropped, List.isEmpty_cons, Bool.false_and, if_neg Bool.false_ne_true]
  refine ⟨_, _, rfl, ?_⟩
  have first := dropWhile_length isDigit r
  have second := scanFraction_length (r.dropWhile isDigit)
  have third := scanExponent_length (scanFraction (r.dropWhile isDigit)).2
  omega

/-- So is a point with a digit behind it. -/
theorem scan_of_point {c : Char} (h : isDigit c = true) (r : List Char) :
    ∃ n rest, scan ('.' :: c :: r) = some (n, rest) ∧ rest.length ≤ r.length := by
  have signed : sign ('.' :: c :: r) = (false, '.' :: c :: r) := rfl
  have whole : ('.' :: c :: r).takeWhile isDigit = [] := rfl
  have dropped : ('.' :: c :: r).dropWhile isDigit = '.' :: c :: r := rfl
  have fraction : scanFraction ('.' :: c :: r) =
      (some (c :: r.takeWhile isDigit), r.dropWhile isDigit) := by simp [scanFraction, h]
  unfold scan
  rw [signed]
  simp only [whole, dropped, fraction, Option.getD_some, List.isEmpty_cons, Bool.and_false,
    if_neg Bool.false_ne_true]
  refine ⟨_, _, rfl, ?_⟩
  have first := dropWhile_length isDigit r
  have second := scanExponent_length (r.dropWhile isDigit)
  omega

/-- A text without a sign that is a numeral starts with a digit, or with a point and a digit. -/
theorem start_of_scan {s rest : List Char} {n : Numeral} (h : scan s = some (n, rest))
    (unsigned : sign s = (false, s)) :
    ∃ c r, s = c :: r ∧ (isDigit c = true ∨ (c = '.' ∧ r.head?.any isDigit = true)) := by
  unfold scan at h
  rw [unsigned] at h
  cases s with
  | nil => simp [scanFraction] at h
  | cons c r =>
    refine ⟨c, r, rfl, ?_⟩
    cases digit : isDigit c with
    | true => exact Or.inl rfl
    | false =>
      have whole : (c :: r).takeWhile isDigit = [] := by simp [digit]
      have dropped : (c :: r).dropWhile isDigit = c :: r := by simp [digit]
      simp only [whole, dropped, scanFraction_cons] at h
      by_cases point : c = '.'
      · refine Or.inr ⟨point, ?_⟩
        rw [if_pos point] at h
        cases r with
        | nil => simp at h
        | cons d r =>
          cases next : isDigit d with
          | true => exact next
          | false => simp [next] at h
      · rw [if_neg point] at h
        simp at h

/-- A sign is taken off once only. -/
theorem scan_of_signed {c : Char} {r rest : List Char} {n : Numeral}
    (signed : ∃ negative, sign (c :: r) = (negative, r)) (h : scan (c :: r) = some (n, rest)) :
    sign r = (false, r) ∧ ∃ m, scan r = some (m, rest) := by
  obtain ⟨negative, eq⟩ := signed
  unfold scan at h
  rw [eq] at h
  have unsigned : sign r = (false, r) := by
    cases r with
    | nil => rfl
    | cons d r =>
      rw [sign_cons]
      by_cases minus : d = '-'
      · rw [minus] at h
        simp [scanFraction_cons, isDigit] at h
      · by_cases plus : d = '+'
        · rw [plus] at h
          simp [scanFraction_cons, isDigit] at h
        · rw [if_neg minus, if_neg plus]
  refine ⟨unsigned, ?_⟩
  unfold scan
  rw [unsigned]
  simp only at h ⊢
  split at h
  · cases h
  · rename_i any
    rw [if_neg any]
    obtain ⟨-, rfl⟩ := Prod.mk.inj (Option.some.inj h)
    exact ⟨_, rfl⟩

/-! ### What follows -/

/-- A text that cannot go on a numeral. -/
def Ends (u : List Char) : Prop :=
  ∀ c ∈ u.head?, isDigit c = false ∧ c ≠ '.' ∧ c ≠ 'e' ∧ c ≠ 'E' ∧ c ≠ '+' ∧ c ≠ '-'

variable {u : List Char}

theorem Ends.not_digit (ends : Ends u) : ∀ c ∈ u.head?, isDigit c = false :=
  fun c hc => (ends c hc).1

theorem sign_append (ends : Ends u) (s : List Char) :
    sign (s ++ u) = ((sign s).1, (sign s).2 ++ u) := by
  cases s with
  | nil =>
    cases u with
    | nil => rfl
    | cons c r =>
      obtain ⟨-, -, -, -, plus, minus⟩ := ends c rfl
      rw [List.nil_append, sign_cons, if_neg minus, if_neg plus]
      rfl
  | cons c s =>
    rw [List.cons_append, sign_cons, sign_cons]
    split
    · rfl
    · split <;> rfl

theorem scanFraction_append (ends : Ends u) (s : List Char) :
    scanFraction (s ++ u) = ((scanFraction s).1, (scanFraction s).2 ++ u) := by
  cases s with
  | nil =>
    cases u with
    | nil => rfl
    | cons c r =>
      rw [List.nil_append, scanFraction_cons, if_neg (ends c rfl).2.1]
      rfl
  | cons c s =>
    rw [List.cons_append, scanFraction_cons, scanFraction_cons]
    obtain ⟨taken, dropped⟩ := takeWhile_append_stop ends.not_digit s
    split
    · rw [taken, dropped]
    · rfl

theorem scanExponent_append (ends : Ends u) (s : List Char) :
    scanExponent (s ++ u) = ((scanExponent s).1, (scanExponent s).2 ++ u) := by
  cases s with
  | nil =>
    cases u with
    | nil => rfl
    | cons c r =>
      obtain ⟨-, -, small, large, -⟩ := ends c rfl
      show scanExponent (c :: r) = (none, c :: r)
      simp [scanExponent, small, large]
  | cons c s =>
    obtain ⟨taken, dropped⟩ := takeWhile_append_stop ends.not_digit (sign s).2
    rw [List.cons_append, scanExponent, scanExponent]
    split
    · simp only [sign_append ends s, taken, dropped]
      split <;> rfl
    · rfl

/-- The numeral at the start of a text stays the same in front of another one. -/
theorem scan_append (ends : Ends u) (s : List Char) :
    scan (s ++ u) = (scan s).map fun p => (p.1, p.2 ++ u) := by
  obtain ⟨taken, dropped⟩ := takeWhile_append_stop ends.not_digit (sign s).2
  unfold scan
  simp only [sign_append ends, taken, dropped, scanFraction_append ends, scanExponent_append ends]
  split <;> rfl

end Numeral

end EntityEngine.Number
