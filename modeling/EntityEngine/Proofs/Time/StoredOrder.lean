import EntityEngine.Proofs.Sql.Comparison
import EntityEngine.Time.Rfc3339
import Mathlib.Algebra.Group.Nat.Defs

/-! The order of stored times. The text of an instant has a fixed width and starts with its largest
part, so texts of instants are in the order of the instants, as long as years have four digits. -/

namespace EntityEngine.Time

open Text

/-! ### Texts of one width -/

theorem compare_append {a b : List Nat} (width : a.length = b.length) (x y : List Nat) :
    compare (a ++ x) (b ++ y) = (compare a b).then (compare x y) := by
  induction a generalizing b with
  | nil =>
    obtain rfl := List.length_eq_zero_iff.mp width.symm
    rfl
  | cons m a ih =>
    cases b with
    | nil => cases width
    | cons n b =>
      rw [List.cons_append, List.cons_append, List.compare_cons_cons, List.compare_cons_cons,
        ih (Nat.succ.inj width), Ordering.then_assoc]

theorem compare_self (a : List Nat) : compare a a = .eq := Std.ReflCmp.compare_self

/-- Numbers of one base are ordered by their leading parts, then by their last digits. -/
theorem compare_digits {b h h' l l' : Nat} (hl : l < b) (hl' : l' < b) :
    compare (b * h + l) (b * h' + l') = (compare h h').then (compare l l') := by
  rcases Nat.lt_trichotomy h h' with less | rfl | more
  · have far := Nat.mul_le_mul_left b (Nat.succ_le_of_lt less)
    rw [Nat.mul_succ] at far
    rw [Nat.compare_eq_lt.mpr less, Nat.compare_eq_lt.mpr (by omega)]
    rfl
  · rw [Nat.compare_eq_eq.mpr rfl, Ordering.eq_then]
    simp only [Nat.compare_eq_ite_lt, Nat.add_lt_add_iff_left]
  · have far := Nat.mul_le_mul_left b (Nat.succ_le_of_lt more)
    rw [Nat.mul_succ] at far
    rw [Nat.compare_eq_gt.mpr more, Nat.compare_eq_gt.mpr (by omega)]
    rfl

theorem textBytes_append (a b : List Char) : textBytes (a ++ b) = textBytes a ++ textBytes b :=
  List.flatMap_append

theorem textBytes_digit {n : Nat} (h : n < 10) (r : List Char) :
    textBytes (n.digitChar :: r) = (48 + n) :: textBytes r := by
  have each : ∀ n < 10, charBytes n.digitChar = [48 + n] := by decide
  show charBytes n.digitChar ++ textBytes r = _
  rw [each n h]
  rfl

theorem compare_digitBytes (m n : Nat) :
    compare ((48 + m) :: textBytes []) ((48 + n) :: textBytes []) = compare m n := by
  rw [List.compare_cons_cons]
  show (compare (48 + m) (48 + n)).then .eq = _
  rw [Ordering.then_eq]
  simp only [Nat.compare_eq_ite_lt, Nat.add_lt_add_iff_left]

theorem padded_succ {w n : Nat} (some : 0 < w) :
    padded (w + 1) n = padded w (n / 10) ++ [(n % 10).digitChar] := by
  simp only [padded]
  rcases Nat.lt_or_ge n 10 with small | large
  · rw [Nat.toDigits_of_lt_base small, Nat.div_eq_of_lt small, Nat.mod_eq_of_lt small]
    obtain ⟨w, rfl⟩ := Nat.exists_eq_add_one.mpr some
    show List.replicate (w + 1) '0' ++ _ = (List.replicate w '0' ++ ['0']) ++ _
    rw [List.replicate_succ']
  · rw [Nat.toDigits_of_base_le (by decide) large, List.length_append, List.length_singleton,
      Nat.add_sub_add_right, List.append_assoc]

theorem padded_one {n : Nat} (h : n < 10) : padded 1 n = [n.digitChar] := by
  rw [padded, Nat.toDigits_of_lt_base h]
  rfl

/-- The bytes of padded numbers are as many as there are places, and in the order of the numbers. -/
theorem compare_padded {w m n : Nat} (some : 0 < w) (hm : m < 10 ^ w) (hn : n < 10 ^ w) :
    (textBytes (padded w m)).length = (textBytes (padded w n)).length ∧
      compare (textBytes (padded w m)) (textBytes (padded w n)) = compare m n := by
  induction w generalizing m n with
  | zero => exact absurd some (Nat.lt_irrefl 0)
  | succ w ih =>
    rcases Nat.eq_zero_or_pos w with rfl | some
    · rw [padded_one hm, padded_one hn, textBytes_digit hm, textBytes_digit hn]
      exact ⟨rfl, compare_digitBytes m n⟩
    · rw [Nat.pow_succ] at hm hn
      obtain ⟨length, order⟩ := ih some (m := m / 10) (n := n / 10) (by omega) (by omega)
      have dm : m % 10 < 10 := Nat.mod_lt _ (by decide)
      have dn : n % 10 < 10 := Nat.mod_lt _ (by decide)
      rw [padded_succ some, padded_succ some, textBytes_append, textBytes_append,
        compare_append length, order, textBytes_digit dm, textBytes_digit dn]
      refine ⟨by rw [List.length_append, List.length_append, length]; rfl, ?_⟩
      have last : compare ((48 + m % 10) :: textBytes []) ((48 + n % 10) :: textBytes []) =
          compare (m % 10) (n % 10) := compare_digitBytes _ _
      rw [last, ← compare_digits dm dn, Nat.div_add_mod, Nat.div_add_mod]

/-! ### Days in the calendar -/

/-- Later positions fall into later stretches, or further into one. -/
theorem locate_mono (lengths : List Nat) {m n : Nat} (h : m < n) :
    (locate lengths m).1 < (locate lengths n).1 ∨
      (locate lengths m).1 = (locate lengths n).1 ∧
        (locate lengths m).2 < (locate lengths n).2 := by
  induction lengths generalizing m n with
  | nil => exact Or.inr ⟨rfl, h⟩
  | cons length rest ih =>
    simp only [locate]
    by_cases hm : m < length
    · by_cases hn : n < length
      · rw [if_pos hm, if_pos hn]
        exact Or.inr ⟨rfl, h⟩
      · rw [if_pos hm, if_neg hn]
        exact Or.inl (Nat.succ_pos _)
    · have apart := ih (m := m - length) (n := n - length) (by omega)
      rw [if_neg hm, if_neg (by omega)]
      simp only
      omega

/-- A position inside some stretches falls short of the end of its own. -/
theorem locate_inside {lengths : List Nat} {n : Nat} (h : n < extent lengths) :
    ∃ length, lengths[(locate lengths n).1]? = some length ∧ (locate lengths n).2 < length := by
  induction lengths generalizing n with
  | nil => exact absurd h (Nat.not_lt_zero n)
  | cons length rest ih =>
    simp only [locate]
    by_cases hn : n < length
    · rw [if_pos hn]
      exact ⟨length, rfl, hn⟩
    · rw [if_neg hn]
      exact ih (n := n - length) (by simp only [extent] at h; omega)

theorem extent_cycleLengths : extent cycleLengths = cycleDays := by decide +kernel

theorem getElem?_cycleLengths {i : Nat} (h : i < 400) :
    cycleLengths[i]? = some (yearLength i) := by
  unfold cycleLengths
  rw [List.getElem?_map, List.getElem?_range h]
  rfl

theorem extent_monthLengths (year : Int) : extent (monthLengths year) = yearLength year := by
  unfold monthLengths yearLength
  cases isLeapYear year <;> rfl

theorem yearLength_cycle (cycle : Int) (year : Nat) :
    yearLength (400 * cycle + year) = yearLength year := by
  have leap : isLeapYear (400 * cycle + year) = isLeapYear year := by
    unfold isLeapYear
    rw [show (400 * cycle + (year : Int)) % 4 = (year : Int) % 4 by omega,
      show (400 * cycle + (year : Int)) % 100 = (year : Int) % 100 by omega,
      show (400 * cycle + (year : Int)) % 400 = (year : Int) % 400 by omega]
  rw [yearLength, leap, yearLength]

namespace Date

/-- `d` is before `e`. -/
def IsBefore (d e : Date) : Prop :=
  d.year < e.year ∨ d.year = e.year ∧ (d.month < e.month ∨ d.month = e.month ∧ d.day < e.day)

/-- The year of a day in its cycle, and the day in that year. -/
theorem ofDay_inside (day : Int) : ∃ year inside : Nat,
    locate cycleLengths (day % 146097).toNat = (year, inside) ∧ year < 400 ∧
      inside < extent (monthLengths (400 * (day / 146097) + year)) := by
  have bound : (day % 146097).toNat < extent cycleLengths := by
    rw [extent_cycleLengths, cycleDays]
    omega
  cases place : locate cycleLengths (day % 146097).toNat with
  | mk year inside =>
    have few := locate_lt bound
    obtain ⟨length, found, less⟩ := locate_inside bound
    simp only [place] at few found less
    have count : cycleLengths.length = 400 := by
      rw [cycleLengths, List.length_map, List.length_range]
    rw [count] at few
    rw [getElem?_cycleLengths few] at found
    refine ⟨year, inside, rfl, few, ?_⟩
    rw [extent_monthLengths, yearLength_cycle, Option.some.inj found]
    exact less

theorem ofDay_mono {m n : Int} (h : m < n) : (ofDay m).IsBefore (ofDay n) := by
  obtain ⟨y, d, first, few, -⟩ := ofDay_inside m
  obtain ⟨y', d', second, -, -⟩ := ofDay_inside n
  have cycles : (cycleDays : Int) = 146097 := rfl
  simp only [ofDay, IsBefore, cycles, first, second]
  by_cases same : m / 146097 = n / 146097
  · have later := locate_mono cycleLengths (m := (m % 146097).toNat) (n := (n % 146097).toNat)
      (by omega)
    rw [first, second] at later
    rcases later with year | ⟨year, inside⟩
    · exact Or.inl (by simp only at year; omega)
    · simp only at year inside
      rw [same, year]
      refine Or.inr ⟨rfl, ?_⟩
      have months := locate_mono (monthLengths (400 * (n / 146097) + y')) inside
      omega
  · exact Or.inl (by omega)

/-- Months and days have two digits. -/
theorem ofDay_bounds (day : Int) : (ofDay day).month < 100 ∧ (ofDay day).day < 100 := by
  obtain ⟨year, inside, place, -, bound⟩ := ofDay_inside day
  have month := locate_lt bound
  obtain ⟨length, found, less⟩ := locate_inside bound
  have short : length ≤ 31 := by
    have mem := List.mem_of_getElem? found
    unfold monthLengths at mem
    split at mem <;> simp at mem <;> omega
  have cycles : (cycleDays : Int) = 146097 := rfl
  have count : (monthLengths (400 * (day / 146097) + year)).length = 12 := rfl
  simp only [ofDay, cycles, place]
  omega

theorem IsBefore.compare {d e : Date} (h : d.IsBefore e) (first : 0 ≤ d.year) :
    (Ord.compare d.year.toNat e.year.toNat).then
      ((Ord.compare d.month e.month).then (Ord.compare d.day e.day)) = .lt := by
  rcases h with year | ⟨year, month | ⟨month, day⟩⟩
  · rw [Nat.compare_eq_lt.mpr (by omega)]
    rfl
  · rw [year, Nat.compare_eq_eq.mpr rfl, Nat.compare_eq_lt.mpr month]
    rfl
  · rw [year, month, Nat.compare_eq_eq.mpr rfl, Nat.compare_eq_eq.mpr rfl,
      Nat.compare_eq_lt.mpr day]
    rfl

end Date

/-! ### Instants -/

namespace Instant

variable {t u v : Instant}

instance : LE Instant := ⟨fun t u => t.second < u.second ∨ t.second = u.second ∧ t.nano ≤ u.nano⟩

theorem le_def : t ≤ u ↔ t.second < u.second ∨ t.second = u.second ∧ t.nano ≤ u.nano := Iff.rfl

theorem le_refl (t : Instant) : t ≤ t := Or.inr ⟨rfl, Nat.le_refl _⟩

theorem le_trans (h₁ : t ≤ u) (h₂ : u ≤ v) : t ≤ v := by
  rw [le_def] at *
  omega

/-- What a clock shows: no leap second, and a year of four digits. -/
structure IsCommon (t : Instant) : Prop where
  nano : t.nano < 1000000000
  year : 0 ≤ t.date.year ∧ t.date.year ≤ 9999

theorem compare_part {w m n : Nat} (some : 0 < w) (hm : m < 10 ^ w) (hn : n < 10 ^ w) (c : Char)
    (x y : List Char) :
    compare (textBytes (padded w m ++ c :: x)) (textBytes (padded w n ++ c :: y)) =
      (compare m n).then (compare (textBytes x) (textBytes y)) := by
  obtain ⟨length, order⟩ := compare_padded some hm hn
  have mark : compare (textBytes (c :: x)) (textBytes (c :: y)) =
      compare (textBytes x) (textBytes y) := by
    show compare (charBytes c ++ textBytes x) (charBytes c ++ textBytes y) = _
    rw [compare_append rfl, compare_self]
    rfl
  rw [textBytes_append, textBytes_append, compare_append length, order, mark]

/-- Hours, minutes and seconds are ordered as the seconds of the day. -/
theorem compare_clock (m n : Nat) : (compare (m / 3600) (n / 3600)).then
    ((compare (m / 60 % 60) (n / 60 % 60)).then (compare (m % 60) (n % 60))) = compare m n := by
  have hours : ∀ s, s / 3600 = s / 60 / 60 := fun s => by omega
  have less : ∀ s, s % 60 < 60 := fun s => Nat.mod_lt s (by decide)
  rw [hours, hours, ← Ordering.then_assoc, ← compare_digits (less _) (less _), Nat.div_add_mod,
    Nat.div_add_mod, ← compare_digits (less _) (less _), Nat.div_add_mod, Nat.div_add_mod]

theorem date_bounds (t : Instant) : t.date.month < 10 ^ 2 ∧ t.date.day < 10 ^ 2 :=
  Date.ofDay_bounds t.day

theorem secondOfDay_lt (t : Instant) : t.secondOfDay < 86400 := by
  unfold secondOfDay
  omega

/-- The parts of a stored text. -/
theorem toList_stored (h : t.IsCommon) : t.stored.toList =
    padded 4 t.date.year.toNat ++ '-' :: (padded 2 t.date.month ++ '-' :: (padded 2 t.date.day ++
      'T' :: (padded 2 (t.secondOfDay / 3600) ++ ':' :: (padded 2 (t.secondOfDay / 60 % 60) ++
        ':' :: (padded 2 (t.secondOfDay % 60) ++ '.' :: (padded 6 (t.nano / 1000) ++ ['Z'])))))) := by
  simp only [stored, String.toList_ofList, dateChars, yearChars, if_pos h.year, clockChars,
    nanoOfSecond, if_neg (Nat.not_le_of_lt h.nano), List.append_assoc, List.cons_append]

/-- The order of stored texts, part by part. -/
theorem compare_stored (ht : t.IsCommon) (hu : u.IsCommon) :
    compare (textBytes t.stored.toList) (textBytes u.stored.toList) =
      ((compare t.date.year.toNat u.date.year.toNat).then
        ((compare t.date.month u.date.month).then (compare t.date.day u.date.day))).then
      ((compare t.secondOfDay u.secondOfDay).then (compare (t.nano / 1000) (u.nano / 1000))) := by
  have nt := ht.nano
  have nu := hu.nano
  have yt := ht.year
  have yu := hu.year
  obtain ⟨mt, dt⟩ := t.date_bounds
  obtain ⟨mu, du⟩ := u.date_bounds
  have st := t.secondOfDay_lt
  have su := u.secondOfDay_lt
  rw [toList_stored ht, toList_stored hu, compare_part (by decide) (by omega) (by omega), compare_part (by decide) mt mu,
    compare_part (by decide) dt du, compare_part (by decide) (by omega) (by omega),
    compare_part (by decide) (by omega) (by omega), compare_part (by decide) (by omega) (by omega),
    compare_part (by decide) (by omega) (by omega), compare_self, Ordering.then_eq,
    ← compare_clock t.secondOfDay]
  simp only [Ordering.then_assoc]

/-- The texts of later instants are later. -/
theorem stored_mono (ht : t.IsCommon) (hu : u.IsCommon) (h : t ≤ u) :
    (compare (textBytes t.stored.toList) (textBytes u.stored.toList)).isLE = true := by
  rw [compare_stored ht hu]
  have days : t.day ≤ u.day := by
    rw [le_def] at h
    unfold day
    omega
  rcases Int.lt_or_eq_of_le days with less | same
  · have before : t.date.IsBefore u.date := Date.ofDay_mono less
    rw [before.compare ht.year.1]
    rfl
  · have date : t.date = u.date := congrArg Date.ofDay same
    rw [date, Nat.compare_eq_eq.mpr rfl, Nat.compare_eq_eq.mpr rfl, Nat.compare_eq_eq.mpr rfl]
    show ((compare t.secondOfDay u.secondOfDay).then _).isLE = true
    have seconds : t.secondOfDay < u.secondOfDay ∨
        t.secondOfDay = u.secondOfDay ∧ t.nano / 1000 ≤ u.nano / 1000 := by
      rw [le_def] at h
      unfold day at same
      unfold secondOfDay
      omega
    rcases seconds with less | ⟨same, nanos⟩
    · rw [Nat.compare_eq_lt.mpr less]
      rfl
    · rw [same, Nat.compare_eq_eq.mpr rfl, Ordering.eq_then, Nat.isLE_compare]
      exact nanos

/-- Stored texts end at the microsecond. -/
theorem stored_toMicros (t : Instant) : t.toMicros.stored = t.stored := by
  have date : t.toMicros.date = t.date := rfl
  have second : t.toMicros.secondOfDay = t.secondOfDay := rfl
  have nanos : t.toMicros.nano = t.nano / 1000 * 1000 := rfl
  by_cases leap : 1000000000 ≤ t.nano
  · have kept : 1000000000 ≤ t.nano / 1000 * 1000 := by omega
    have micros : (t.nano / 1000 * 1000 - 1000000000) / 1000 = (t.nano - 1000000000) / 1000 := by
      omega
    simp only [stored, clockChars, nanoOfSecond, date, second, nanos, if_pos leap, if_pos kept,
      micros]
  · have kept : ¬ 1000000000 ≤ t.nano / 1000 * 1000 := by omega
    have micros : t.nano / 1000 * 1000 / 1000 = t.nano / 1000 := by omega
    simp only [stored, clockChars, nanoOfSecond, date, second, nanos, if_neg leap, if_neg kept,
      micros]

end Instant

end EntityEngine.Time
