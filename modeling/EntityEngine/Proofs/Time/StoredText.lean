import EntityEngine.Proofs.Time.StoredReading
import EntityEngine.Store.RowText

/-! The stored text of an instant, whose year has four digits and which is no leap second. It has 27
bytes, and the texts of two instants are in the order of the instants, cut off at the microsecond. -/

namespace EntityEngine.Time

open Number Text

theorem length_digitBytes {s : List Char} (digits : ∀ c ∈ s, isDigit c = true) :
    (textBytes s).length = s.length := by
  induction s with
  | nil => rfl
  | cons c s ih =>
    obtain ⟨own, rest⟩ := List.forall_mem_cons.mp digits
    have low : c.toNat ≤ 57 := (Char.isDigit_iff_toNat.mp own).2
    have one : charBytes c = [c.toNat] := if_pos (show c.toNat < 0x80 by omega)
    show (charBytes c ++ textBytes s).length = _
    rw [one, List.length_append, ih rest, List.length_singleton, List.length_cons, Nat.add_comm]

/-- A padded number in front of a mark of one byte. -/
theorem length_part {w n : Nat} (some : 0 < w) (h : n < 10 ^ w) {c : Char} (mark : c.toNat < 0x80)
    (x : List Char) : (textBytes (padded w n ++ c :: x)).length = w + 1 + (textBytes x).length := by
  obtain ⟨length, digits, -⟩ := padded_digits some h
  have one : charBytes c = [c.toNat] := if_pos mark
  rw [textBytes_append, List.length_append, length_digitBytes digits, length]
  show w + (charBytes c ++ textBytes x).length = _
  rw [one, List.length_append, List.length_singleton, Nat.add_assoc]

namespace Instant

variable {t u : Instant}

theorem length_stored (h : t.IsCommon) : (textBytes t.stored.toList).length = 27 := by
  have nano := h.nano
  have year := h.year
  obtain ⟨month, day⟩ := t.date_bounds
  have seconds := t.secondOfDay_lt
  rw [toList_stored h, length_part (by decide) (by omega) (by decide),
    length_part (by decide) month (by decide), length_part (by decide) day (by decide),
    length_part (by decide) (by omega) (by decide), length_part (by decide) (by omega) (by decide),
    length_part (by decide) (by omega) (by decide), length_part (by decide) (by omega) (by decide)]
  rfl

instance : LT Instant := ⟨fun t u => t.second < u.second ∨ t.second = u.second ∧ t.nano < u.nano⟩

theorem lt_iff_not_le : t < u ↔ ¬ u ≤ t := by
  rw [le_def]
  show t.second < u.second ∨ t.second = u.second ∧ t.nano < u.nano ↔ _
  omega

theorem IsCommon.toMicros (h : t.IsCommon) : t.toMicros.IsCommon := by
  refine ⟨?_, h.year⟩
  have nano := h.nano
  show t.nano / 1000 * 1000 < _
  omega

theorem stored_lt_iff (ht : t.IsCommon) (hu : u.IsCommon) :
    compare (textBytes t.stored.toList) (textBytes u.stored.toList) = .lt ↔
      t.toMicros < u.toMicros := by
  rw [lt_iff_not_le]
  constructor
  · intro less later
    have back := stored_mono hu.toMicros ht.toMicros later
    have turned : compare (textBytes u.stored.toList) (textBytes t.stored.toList) =
        (compare (textBytes t.stored.toList) (textBytes u.stored.toList)).swap :=
      Std.OrientedCmp.eq_swap
    rw [stored_toMicros, stored_toMicros, turned, less] at back
    cases back
  · intro earlier
    have on : t.toMicros ≤ u.toMicros := by
      simp only [le_def] at earlier ⊢
      omega
    have order := stored_mono ht.toMicros hu.toMicros on
    rw [stored_toMicros, stored_toMicros] at order
    cases compared : compare (textBytes t.stored.toList) (textBytes u.stored.toList) with
    | lt => rfl
    | gt =>
      rw [compared] at order
      cases order
    | eq =>
      have same := String.toList_inj.mp (textBytes_injective (Std.compare_eq_iff_eq.mp compared))
      have read := parse?_stored ht
      rw [same, parse?_stored hu] at read
      rw [Option.some.inj read] at earlier
      exact absurd (le_refl _) earlier

theorem decodeInstant_stored (h : t.IsCommon) : decodeInstant t.stored = .ok t.toMicros := by
  simp only [decodeInstant, parse?_stored h]

/-- Stored texts of instants are of one width, in the order of the instants cut off at the
microsecond, and read back as those. -/
theorem stored_text_sorts (ht : t.IsCommon) (hu : u.IsCommon) :
    (textBytes t.stored.toList).length = 27 ∧ (textBytes u.stored.toList).length = 27 ∧
      (compare (textBytes t.stored.toList) (textBytes u.stored.toList) = .lt ↔
        t.toMicros < u.toMicros) ∧
      decodeInstant t.stored = .ok t.toMicros :=
  ⟨length_stored ht, length_stored hu, stored_lt_iff ht hu, decodeInstant_stored ht⟩

theorem stored_text_sorts_newYear :
    (⟨946684799, 999999999⟩ : Instant).IsCommon ∧ (⟨946684800, 1⟩ : Instant).IsCommon ∧
      compare (textBytes (⟨946684799, 999999999⟩ : Instant).stored.toList)
        (textBytes (⟨946684800, 1⟩ : Instant).stored.toList) = .lt ∧
      decodeInstant (⟨946684799, 999999999⟩ : Instant).stored = .ok ⟨946684799, 999999000⟩ := by
  have old : (⟨946684799, 999999999⟩ : Instant).IsCommon := ⟨by decide, by decide +kernel⟩
  have new : (⟨946684800, 1⟩ : Instant).IsCommon := ⟨by decide, by decide +kernel⟩
  obtain ⟨-, -, order, read⟩ := stored_text_sorts old new
  exact ⟨old, new, order.mpr (Or.inl (by decide)), read⟩

end Instant

end EntityEngine.Time
