import EntityEngine.Proofs.Sql.NumberText
import EntityEngine.Proofs.Time.StoredReading

/-! The two texts of an instant. The stored one always has six digits of the second, the shown one
as many as are needed; so they are the same where six are needed, and nowhere else. -/

namespace EntityEngine

open Number Text

namespace Time

/-- Whatever the width, the digits write the number. -/
theorem ofDigits_padded (width n : Nat) : ofDigits (padded width n) = n := by
  have zeros : ∀ (k : Nat) (ds : List Char),
      ofDigits (List.replicate k '0' ++ ds) = ofDigits ds := by
    intro k ds
    induction k with
    | zero => rfl
    | succ k ih => exact ih
  unfold padded
  rw [zeros]
  exact Nat.ofDigitChars_toDigits (by decide) (by decide)

theorem eq_of_padded {w w' m n : Nat} (same : padded w m = padded w' n) : m = n := by
  have digits := congrArg ofDigits same
  rwa [ofDigits_padded, ofDigits_padded] at digits

/-- The shown digits of the second are six exactly where the microseconds are whole, and not whole
milliseconds. -/
theorem fractionChars_iff (nano : Nat) : '.' :: padded 6 (nano / 1000) = fractionChars nano ↔
    nano % 1000 = 0 ∧ nano / 1000 % 1000 ≠ 0 := by
  have other : ∀ {w n : Nat}, nano / 1000 ≠ n →
      '.' :: padded 6 (nano / 1000) ≠ '.' :: padded w n := fun apart same =>
    apart (eq_of_padded (List.cons.inj same).2)
  unfold fractionChars
  split
  · rename_i zero
    exact iff_of_false (List.cons_ne_nil _ _) (by omega)
  · split
    · exact iff_of_false (other (by omega)) (by omega)
    · split
      · exact iff_of_true rfl (by omega)
      · exact iff_of_false (other (by omega)) (by omega)

namespace Instant

/-- The microseconds of the second. -/
def micros (t : Instant) : Nat := nanoOfSecond t / 1000

/-- The texts of an instant are the same exactly if it has whole microseconds, but no whole
milliseconds. -/
theorem stored_eq_shown (t : Instant) :
    t.stored = t.shown ↔ nanoOfSecond t % 1000 = 0 ∧ t.micros % 1000 ≠ 0 := by
  rw [stored, shown, String.ofList_inj, List.append_cancel_left_eq, List.cons.injEq,
    List.append_cancel_left_eq, ← List.cons_append, List.append_cancel_right_eq, micros,
    ← fractionChars_iff, and_iff_right rfl]

/-- An instant without a part of a microsecond. -/
def IsCut (t : Instant) : Prop := t.toMicros = t

theorem isCut_toMicros (t : Instant) : t.toMicros.IsCut := by
  have whole : t.nano / 1000 * 1000 / 1000 * 1000 = t.nano / 1000 * 1000 := by omega
  show (⟨t.second, _⟩ : Instant) = _
  rw [show t.toMicros.nano / 1000 * 1000 = t.nano / 1000 * 1000 from whole]
  rfl

theorem IsCut.stored_eq_shown {t : Instant} (cut : t.IsCut) :
    t.stored = t.shown ↔ t.micros % 1000 ≠ 0 := by
  have nano : t.nano / 1000 * 1000 = t.nano := congrArg Instant.nano cut
  have whole : nanoOfSecond t % 1000 = 0 := by
    unfold nanoOfSecond
    split <;> omega
  rw [Instant.stored_eq_shown, and_iff_right whole]

/-- The stored text of such an instant is read back as the instant. -/
theorem IsCut.parse?_stored {t : Instant} (cut : t.IsCut) (common : t.IsCommon) :
    parse? t.stored = some t := by
  rw [Instant.parse?_stored common, show t.toMicros = t from cut]

end Instant

end Time

/-- A text that ends in a letter is no number. -/
theorem number?_of_letter {v : String} {body : List Char} (ends : v.toList = body ++ ['Z']) :
    number? v = none := by
  have visible : isBlank 'Z' = false := by decide
  have last : Numeral.Ends ['Z'] := by
    intro c hc
    obtain rfl := Option.some.inj hc
    decide
  obtain ⟨r, rest⟩ : ∃ r, (trim v).toList = r ++ ['Z'] := by
    obtain ⟨s, left⟩ : ∃ s, trimLeft v.toList = s ++ ['Z'] := by
      rw [trimLeft, ends, List.dropWhile_append]
      split
      · exact ⟨[], by simp [visible]⟩
      · exact ⟨_, rfl⟩
    refine ⟨s, ?_⟩
    rw [trim, String.toList_ofList, left, trimRight, List.reverse_append, List.reverse_singleton,
      List.singleton_append, List.dropWhile_cons, visible, if_neg Bool.false_ne_true,
      List.reverse_cons, List.reverse_reverse]
  rcases number?_cases v with none | ⟨m, scanned, -⟩
  · exact none
  · rw [rest, Numeral.scan_append last] at scanned
    obtain ⟨p, -, eq⟩ := Option.map_eq_some_iff.mp scanned
    exact absurd (congrArg Prod.snd eq) (List.append_ne_nil_of_right_ne_nil _ (List.cons_ne_nil _ _))

theorem Time.Instant.number?_shown (t : Instant) : number? t.shown = none := by
  have ends : t.shown.toList = dateChars t.date ++ 'T' ::
      (clockChars t ++ fractionChars (nanoOfSecond t)) ++ ['Z'] := by
    simp only [shown, String.toList_ofList, List.append_assoc, List.cons_append]
  exact number?_of_letter ends

end EntityEngine
