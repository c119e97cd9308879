import EntityEngine.Proofs.Time.StoredOrder
import Mathlib.Data.List.TakeWhile

/-! Reading stored times. The text of an instant is read back as that instant, cut off at the
microsecond, as long as its year has four digits and it is no leap second. -/

namespace EntityEngine.Time

open Number Text

/-! ### Padded numbers -/

theorem ofDigits_concat (cs : List Char) (c : Char) :
    ofDigits (cs ++ [c]) = 10 * ofDigits cs + digitValue c := by
  rw [ofDigits, List.foldl_append]
  rfl

theorem digitChar_digit {n : Nat} (h : n < 10) :
    isDigit n.digitChar = true ∧ digitValue n.digitChar = n := by
  have each : ∀ n < 10, isDigit n.digitChar = true ∧ digitValue n.digitChar = n := by decide
  exact each n h

/-- A number padded to a width it fits in is that many digits, which write it. -/
theorem padded_digits {w n : Nat} (some : 0 < w) (h : n < 10 ^ w) :
    (padded w n).length = w ∧ (∀ c ∈ padded w n, isDigit c = true) ∧
      ofDigits (padded w n) = n := by
  induction w generalizing n with
  | zero => exact absurd some (Nat.lt_irrefl 0)
  | succ w ih =>
    rcases Nat.eq_zero_or_pos w with rfl | some
    · obtain ⟨digit, value⟩ := digitChar_digit h
      rw [padded_one h]
      refine ⟨rfl, by simpa using digit, ?_⟩
      simpa [ofDigits] using value
    · rw [Nat.pow_succ] at h
      obtain ⟨length, digits, value⟩ := ih some (n := n / 10) (by omega)
      obtain ⟨last, worth⟩ := digitChar_digit (Nat.mod_lt n (by decide : 10 > 0))
      rw [padded_succ some, List.length_append, length, ofDigits_concat, value, worth]
      refine ⟨rfl, ?_, Nat.div_add_mod n 10⟩
      intro c hc
      rcases List.mem_append.mp hc with hc | hc
      · exact digits c hc
      · rw [List.mem_singleton.mp hc]
        exact last

theorem digits?_padded {w n : Nat} (some : 0 < w) (h : n < 10 ^ w) (rest : List Char) :
    digits? w w (padded w n ++ rest) = .some (n, rest) := by
  obtain ⟨length, digits, value⟩ := padded_digits some h
  have taken : ((padded w n ++ rest).take w).takeWhile isDigit = padded w n := by
    rw [List.take_left' length]
    exact List.takeWhile_eq_self_iff.mpr digits
  simp only [digits?, taken, length, value]
  rw [if_neg (Nat.lt_irrefl w), List.drop_left' length]

/-- Six digits behind a point are microseconds. -/
theorem optionalNano_padded {n : Nat} (h : n < 10 ^ 6) :
    optionalNano ('.' :: (padded 6 n ++ ['Z'])) = some (n * 1000, ['Z']) := by
  obtain ⟨length, digits, value⟩ := padded_digits (by decide) h
  have short : (padded 6 n ++ ['Z']).take 9 = padded 6 n ++ ['Z'] :=
    List.take_of_length_le (by rw [List.length_append, length]; decide)
  have taken : (padded 6 n ++ ['Z']).takeWhile isDigit = padded 6 n := by
    rw [List.takeWhile_append_of_pos digits]
    exact List.append_nil _
  have rest : (padded 6 n ++ ['Z']).drop 6 = ['Z'] := List.drop_left' length
  have width : (padded 6 n ++ ['Z']).length = 7 := by
    rw [List.length_append, length]
    rfl
  simp only [optionalNano, nano?, digits?, short, taken, length, value, rest, width]
  rfl

/-! ### Dates -/

namespace Date

theorem toDay_ofDay (day : Int) : (ofDay day).toDay = day := by
  obtain ⟨year, inside, place, few, -⟩ := ofDay_inside day
  have cycles : (cycleDays : Int) = 146097 := rfl
  have yearPlace := position_locate cycleLengths (day % 146097).toNat
  rw [place] at yearPlace
  simp only at yearPlace
  have monthPlace := position_locate (monthLengths (400 * (day / 146097) + year)) inside
  simp only [ofDay, toDay, cycles, place, Nat.add_sub_cancel, monthPlace]
  rw [show (400 * (day / 146097) + (year : Int)) / 400 = day / 146097 by omega,
    show ((400 * (day / 146097) + (year : Int)) % 400).toNat = year by omega, yearPlace]
  omega

theorem isValid_ofDay (day : Int) : (ofDay day).isValid = true := by
  obtain ⟨year, inside, place, -, bound⟩ := ofDay_inside day
  obtain ⟨length, found, less⟩ := locate_inside bound
  have month := locate_lt bound
  have cycles : (cycleDays : Int) = 146097 := rfl
  have count : (monthLengths (400 * (day / 146097) + year)).length = 12 := rfl
  rw [count] at month
  simp only [isValid, ofDay, cycles, place, Nat.add_sub_cancel, found, Option.getD_some,
    Bool.and_eq_true, decide_eq_true_eq]
  omega

end Date

namespace Instant

variable {t : Instant}

theorem ofDate_date (t : Instant) (nano : Nat) :
    ofDate t.date t.secondOfDay nano = ⟨t.second, nano⟩ := by
  have day : t.date.toDay = t.second / 86400 + epochDay := Date.toDay_ofDay t.day
  unfold ofDate secondOfDay
  rw [day]
  congr 1
  omega

/-- A clock that shows the time of an instant means that instant. -/
theorem instant?_reading (h : t.IsCommon) (nano : Nat) :
    Reading.instant? ⟨t.date, t.secondOfDay / 3600, t.secondOfDay / 60 % 60, t.secondOfDay % 60,
      nano, 0⟩ (86399 / 60 * 60) = some ⟨t.second, nano⟩ := by
  have seconds := t.secondOfDay_lt
  have reached : isReachedYear t.date.year = true := by
    obtain ⟨low, high⟩ := h.year
    simp only [isReachedYear, Bool.and_eq_true, decide_eq_true_eq]
    unfold firstYear lastYear
    omega
  have usual : (t.secondOfDay % 60 == 60) = false := by
    rw [beq_eq_false_iff_ne]
    omega
  have clock : t.secondOfDay / 3600 * 3600 + t.secondOfDay / 60 % 60 * 60 + t.secondOfDay % 60 =
      t.secondOfDay := by omega
  have valid : t.date.isValid = true := Date.isValid_ofDay t.day
  have hours : t.secondOfDay / 3600 < 24 := by omega
  have minutes : t.secondOfDay / 60 % 60 < 60 := by omega
  have rest : t.secondOfDay % 60 ≤ 60 := by omega
  have universal : (⟨t.second, nano⟩ : Instant).date.year = t.date.year := rfl
  simp only [Reading.instant?, valid, reached, usual, hours, minutes, rest, clock, ofDate_date,
    universal, Int.sub_zero, decide_true, Bool.and_true, Bool.false_eq_true, if_false]
  rfl

/-- What is stored of an instant is read back, cut off at the microsecond. -/
theorem parse?_stored (h : t.IsCommon) : parse? t.stored = some t.toMicros := by
  have nano := h.nano
  obtain ⟨low, high⟩ := h.year
  obtain ⟨month, day⟩ := t.date_bounds
  have seconds := t.secondOfDay_lt
  have year : ((t.date.year.toNat : Nat) : Int) = t.date.year := Int.toNat_of_nonneg low
  have reading := instant?_reading h (t.nano / 1000 * 1000)
  simp only [parse?, toList_stored h,
    digits?_padded (show 0 < 4 by decide) (show t.date.year.toNat < 10 ^ 4 by omega),
    digits?_padded (show 0 < 2 by decide) month, digits?_padded (show 0 < 2 by decide) day,
    digits?_padded (show 0 < 2 by decide) (show t.secondOfDay / 3600 < 10 ^ 2 by omega),
    digits?_padded (show 0 < 2 by decide) (show t.secondOfDay / 60 % 60 < 10 ^ 2 by omega),
    digits?_padded (show 0 < 2 by decide) (show t.secondOfDay % 60 < 10 ^ 2 by omega),
    optionalNano_padded (show t.nano / 1000 < 10 ^ 6 by omega), char?, separator?, offset?,
    Option.bind_eq_bind, Option.bind_some, if_true, true_or, List.isEmpty_nil]
  rw [year]
  exact reading

end Instant

end EntityEngine.Time
