import EntityEngine.Proofs.Json.RoundTrip
import EntityEngine.Store.Definitions

/-! What is read back of a value that is stored as its text: a plain value as it is, a number as
some number, an array as an array and an object as an object. -/

namespace EntityEngine.Json

open Number Reading

variable {v : Json}

theorem reread_of_plain (plain : v.IsPlain) : v.reread = v := by
  rw [reread, parse?_render plain]
  split <;> rfl

/-- What is read of a text is read from its start. -/
theorem value_of_parse? {s : String} {w : Json} (h : parse? s = some w) :
    (value (s.toList.length + 1) s.toList).1.toJson? nestingBound = some w := by
  unfold parse? at h
  split at h
  · rename_i read whole
    have first : (value (s.toList.length + 1) s.toList).1 = read := congrArg Prod.fst whole
    rw [first, h]
  · cases h

/-- A number is not read as null. -/
theorem parse?_number_ne {s : String} {c : Char} {t : List Char} (start : s.toList = c :: t)
    (first : c = '-' ∨ isDigit c = true) : parse? s ≠ some .null := by
  intro h
  replace h := value_of_parse? h
  obtain ⟨space, -, -, text, array, object⟩ := number_start first
  rw [start] at h
  simp only [value, skip_cons space, if_pos first] at h
  split at h
  · rename_i number rest _
    have real : ∀ t : NumberText, t.real? ≠ some .null := by
      intro t
      unfold NumberText.real?
      simp
    unfold toJson? NumberText.value? at h
    simp only at h
    split at h
    · split at h
      · split at h
        · cases h
        · exact real _ h
      · split at h
        · cases h
        · exact real _ h
    · exact real _ h
  · cases h

/-- An array is read back as an array, if not always with the same items. -/
theorem reread_array (vs : List Json) : ∃ ws, (array vs).reread = .array ws := by
  unfold reread
  cases read : parse? (array vs).render with
  | none => exact ⟨vs, rfl⟩
  | some w =>
    replace read := value_of_parse? read
    obtain ⟨items, closed, found⟩ : ∃ items closed,
        (value ((array vs).render.toList.length + 1) (array vs).render.toList).1 =
          .array items closed := by
      have start : (array vs).render.toList = '[' :: (itemChars vs ++ [']']) :=
        String.toList_ofList
      have opening : isSpace '[' = false := by decide
      rw [start]
      simp only [value, skip_cons opening]
      split <;> exact ⟨_, _, rfl⟩
    rw [found, toJson?] at read
    split at read
    · obtain ⟨ws, -, rfl⟩ := Option.map_eq_some_iff.mp read
      exact ⟨ws, rfl⟩
    · cases read

theorem reread_object (es : List (String × Json)) : ∃ fs, (object es).reread = .object fs := by
  unfold reread
  cases read : parse? (object es).render with
  | none => exact ⟨es, rfl⟩
  | some w =>
    replace read := value_of_parse? read
    obtain ⟨entries, closed, found⟩ : ∃ entries closed,
        (value ((object es).render.toList.length + 1) (object es).render.toList).1 =
          .object entries closed := by
      have start : (object es).render.toList = '\x7b' :: (entryChars es ++ ['\x7d']) :=
        String.toList_ofList
      have opening : isSpace '\x7b' = false := by decide
      rw [start]
      simp only [value, skip_cons opening]
      split <;> exact ⟨_, _, rfl⟩
    rw [found, toJson?] at read
    split at read
    · obtain ⟨fs, -, rfl⟩ := Option.map_eq_some_iff.mp read
      exact ⟨_, rfl⟩
    · cases read

end EntityEngine.Json
