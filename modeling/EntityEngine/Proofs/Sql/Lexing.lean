import EntityEngine.Proofs.Number.Numeral
import EntityEngine.Sql.Parser

/-! How texts are cut into tokens. Each token takes at least one character, so all of a text is
cut up; and pieces of text that stand one after the other are read each by itself, as long as no
token can reach from one into the next. -/

namespace EntityEngine.Sql.Token

open Number

/-! ### Every token takes characters -/

/-- A token and a rest are the two parts of a text. -/
structure Cuts (s : List Char) (p : Token × List Char) : Prop where
  whole : p.1.raw ++ p.2 = s
  some : p.1.raw ≠ []

theorem head_cuts (kind : TokenKind) {n : Nat} {c : Char} {r : List Char} (pos : 0 < n) :
    Cuts (c :: r) (head kind n (c :: r)) := by
  constructor
  · exact List.take_append_drop n (c :: r)
  · obtain ⟨m, rfl⟩ : ∃ m, n = m + 1 := ⟨n - 1, by omega⟩
    simp [head]

theorem quoted_cuts (quote : Char) (kind : List Char → TokenKind) (c : Char) (r : List Char) :
    Cuts (c :: r) (quoted quote kind (c :: r)) := by
  unfold quoted
  split
  · exact head_cuts _ (by omega)
  · exact head_cuts _ (by simp)

theorem takeWhile_length_pos {p : Char → Bool} {c : Char} {r : List Char} (h : p c = true) :
    0 < ((c :: r).takeWhile p).length := by
  simp [h]

theorem signToken_cuts (c : Char) (r : List Char) : Cuts (c :: r) (signToken (c :: r)) := by
  unfold signToken
  split
  · rename_i sign found
    have mem := List.mem_of_find?_eq_some found
    have all : ∀ sign ∈ longSigns, 0 < sign.length := by decide
    exact head_cuts _ (all sign mem)
  · split
    · exact head_cuts _ (by omega)
    · exact head_cuts _ (by omega)

theorem bytesToken_cuts (c : Char) (r : List Char) : Cuts (c :: r) (bytesToken (c :: r)) := by
  unfold bytesToken
  simp only
  split
  · exact head_cuts _ (by omega)
  · refine head_cuts _ ?_
    simp only [List.length_cons]
    omega

theorem variableToken_cuts (isPart : Char → Bool) (least : Nat) (c : Char) (r : List Char) :
    Cuts (c :: r) (variableToken isPart least (c :: r)) := by
  unfold variableToken
  simp only
  split
  · exact head_cuts _ (by omega)
  · exact head_cuts _ (by omega)

/-- What a number starts with. -/
def StartsNumber (c : Char) (r : List Char) : Prop :=
  c.isDigit = true ∨ (c = '.' ∧ r.head?.any Char.isDigit = true)

theorem numberLength_pos {c : Char} {r : List Char} (h : StartsNumber c r) :
    0 < numberLength (c :: r) := by
  unfold numberLength
  rcases h with digit | ⟨rfl, next⟩
  · obtain ⟨n, rest, found, less⟩ := Numeral.scan_of_digit digit r
    rw [found]
    simp only [List.length_cons]
    omega
  · cases r with
    | nil => cases next
    | cons d r =>
      obtain ⟨n, rest, found, less⟩ :=
        Numeral.scan_of_point (c := d) (by simpa using next : d.isDigit = true) r
      rw [found]
      simp only [List.length_cons]
      omega

theorem numberTake_pos {c : Char} {r : List Char} (h : StartsNumber c r) :
    0 < numberTake (c :: r) := by
  have pos := numberLength_pos h
  unfold numberTake
  split
  · rename_i eq
    split
    · omega
    · exact pos
  · exact pos

theorem numberToken_cuts {c : Char} {r : List Char} (h : StartsNumber c r) :
    Cuts (c :: r) (numberToken (c :: r)) := by
  have pos := numberTake_pos h
  unfold numberToken
  simp only
  split
  · exact head_cuts _ pos
  · exact head_cuts _ (by omega)

theorem bracketToken_cuts (c : Char) (r : List Char) : Cuts (c :: r) (bracketToken (c :: r)) := by
  unfold bracketToken
  simp only
  split
  · exact head_cuts _ (by omega)
  · exact head_cuts _ (by simp)

/-- What is known of the first characters by what they start. -/
def Start.Fits (c : Char) (r : List Char) : Start → Prop
  | .blank => isBlankChar c = true
  | .text => c = '\''
  | .name => c = '"' ∨ c = '\x60'
  | .line => c = '-' ∧ r.head? = some '-'
  | .block => c = '/' ∧ r.head? = some '*' ∧ 1 < r.length
  | .number => StartsNumber c r
  | .bytes => r.head? = some '\''
  | .word => isWordChar c = true
  | _ => True

theorem Start.fits_ite {c : Char} {r : List Char} {p : Prop} [Decidable p] {a b : Start}
    (yes : p → a.Fits c r) (no : ¬ p → b.Fits c r) : (if p then a else b).Fits c r := by
  by_cases h : p
  · rw [if_pos h]
    exact yes h
  · rw [if_neg h]
    exact no h

theorem startOf_fits (c : Char) (r : List Char) : (startOf c r).Fits c r := by
  unfold startOf
  refine Start.fits_ite id fun _ => ?_
  refine Start.fits_ite id fun _ => ?_
  refine Start.fits_ite id fun _ => ?_
  refine Start.fits_ite (fun _ => trivial) fun _ => ?_
  refine Start.fits_ite id fun _ => ?_
  refine Start.fits_ite id fun _ => ?_
  refine Start.fits_ite id fun _ => ?_
  refine Start.fits_ite And.right fun _ => ?_
  refine Start.fits_ite (fun _ => trivial) fun _ => ?_
  refine Start.fits_ite (fun _ => trivial) fun _ => ?_
  refine Start.fits_ite (fun _ => trivial) fun _ => ?_
  exact Start.fits_ite id fun _ => trivial

/-- A token is the start of the text, and takes at least one character. -/
theorem first_cuts (c : Char) (r : List Char) : Cuts (c :: r) (first c r) := by
  have spec := startOf_fits c r
  unfold first
  simp only
  cases start : startOf c r <;> rw [start] at spec
  case blank => exact head_cuts _ (takeWhile_length_pos spec)
  case text => exact quoted_cuts _ _ c r
  case name => exact quoted_cuts _ _ c r
  case bracket => exact bracketToken_cuts c r
  case line =>
    refine head_cuts _ (takeWhile_length_pos ?_)
    rw [spec.1]
    decide
  case block => exact head_cuts _ (by omega)
  case number => exact numberToken_cuts (spec)
  case bytes => exact bytesToken_cuts c r
  case byteOrderMark => exact head_cuts _ (by omega)
  case named => exact variableToken_cuts _ _ c r
  case numbered => exact variableToken_cuts _ _ c r
  case word => exact head_cuts _ (takeWhile_length_pos (spec))
  case sign => exact signToken_cuts c r

theorem next?_cuts {s : List Char} {p : Token × List Char} (h : next? s = some p) : Cuts s p := by
  cases s with
  | nil => cases h
  | cons c r =>
    rw [← Option.some.inj h]
    exact first_cuts c r

theorem next?_length {s : List Char} {t : Token} {rest : List Char}
    (h : next? s = some (t, rest)) : rest.length < s.length := by
  obtain ⟨whole, some⟩ := next?_cuts h
  have pos : 0 < t.raw.length := List.length_pos_iff.mpr some
  have lengths : t.raw.length + rest.length = s.length := by
    rw [← List.length_append, whole]
  omega

/-! ### Enough fuel -/

theorem scanFuel_eq {fuel fuel' : Nat} {s : List Char} (h : s.length ≤ fuel)
    (h' : s.length ≤ fuel') : scanFuel fuel s = scanFuel fuel' s := by
  induction fuel generalizing fuel' s with
  | zero =>
    rw [List.length_eq_zero_iff.mp (Nat.le_zero.mp h)]
    cases fuel' <;> rfl
  | succ fuel ih =>
    cases fuel' with
    | zero =>
      rw [List.length_eq_zero_iff.mp (Nat.le_zero.mp h')]
      rfl
    | succ fuel' =>
      unfold scanFuel
      cases found : next? s with
      | none => rfl
      | some p =>
        have less := next?_length found
        simp only
        rw [ih (by omega) (by omega : p.2.length ≤ fuel')]

theorem scan_nil : scan [] = [] := rfl

theorem scan_eq {s : List Char} {t : Token} {rest : List Char} (h : next? s = some (t, rest)) :
    scan s = t :: scan rest := by
  have less := next?_length h
  unfold scan
  obtain ⟨n, hn⟩ : ∃ n, s.length = n + 1 := ⟨s.length - 1, by omega⟩
  rw [hn, scanFuel, h]
  simp only
  rw [scanFuel_eq (by omega) (Nat.le_refl rest.length)]

/-! ### Tokens in front of a text -/

theorem opening_next (t : List Char) : next? ('(' :: t) = some (⟨.sign, ['(']⟩, t) := rfl

theorem closing_next (t : List Char) : next? (')' :: t) = some (⟨.sign, [')']⟩, t) := rfl

theorem comma_next (t : List Char) : next? (',' :: t) = some (⟨.sign, [',']⟩, t) := rfl

/-- A text that no word and no number can reach into. -/
def Parts (u : List Char) : Prop :=
  ∃ c r, u = c :: r ∧ (c = ' ' ∨ c = ',' ∨ c = '\n' ∨ c = ')')

theorem Parts.ends {u : List Char} (h : Parts u) : Numeral.Ends u := by
  obtain ⟨c, r, rfl, rfl | rfl | rfl | rfl⟩ := h <;> intro d hd <;>
    obtain rfl := Option.some.inj hd <;> decide

theorem Parts.not_word {u : List Char} (h : Parts u) : ∀ c ∈ u.head?, isWordChar c = false := by
  obtain ⟨c, r, rfl, rfl | rfl | rfl | rfl⟩ := h <;> intro d hd <;>
    obtain rfl := Option.some.inj hd <;> decide

theorem startOf_of_startsNumber {c : Char} {r : List Char} (h : StartsNumber c r) :
    startOf c r = .number := by
  have other : ∀ d : Char, isDigit d = false → d ≠ '.' → c ≠ d := by
    rintro d digit point rfl
    rcases h with found | ⟨rfl, -⟩
    · rw [isDigit_eq, found] at digit
      cases digit
    · exact point rfl
  have blank : isBlankChar c = false := by
    rcases h with found | ⟨rfl, -⟩
    · have range := Char.isDigit_iff_toNat.mp found
      have low : (48 : Nat) ≤ c.toNat := range.1
      simp only [isBlankChar, Bool.or_eq_false_iff, Bool.and_eq_false_iff, decide_eq_false_iff_not]
      exact ⟨other ' ' rfl (by decide), Or.inr (by omega)⟩
    · decide
  have found : c.isDigit = true ∨ (c = '.' ∧ r.head?.any Char.isDigit = true) := h
  simp [startOf, blank, other '\'' rfl (by decide), other '"' rfl (by decide),
    other '\x60' rfl (by decide), other '[' rfl (by decide), other '-' rfl (by decide),
    other '/' rfl (by decide), found]

/-- A whole numeral takes all its characters, whatever follows that parts it. -/
theorem numberTake_whole {c : Char} {r u : List Char} {n : Numeral}
    (whole : Numeral.scan (c :: r) = some (n, [])) (parts : Parts u) :
    numberTake (c :: r ++ u) = (c :: r).length := by
  have length : numberLength (c :: r ++ u) = (c :: r).length := by
    rw [numberLength, Numeral.scan_append parts.ends, whole]
    simp only [Option.map_some, List.nil_append, List.length_append]
    omega
  unfold numberTake
  split
  · rename_i x t eq
    -- A numeral with such a mark behind its first digit would not be read to its end.
    have mark : ¬ (x = 'x' ∨ x = 'X') := by
      intro mark
      obtain rfl : c = '0' := (List.cons.inj eq).1
      cases r with
      | nil =>
        obtain ⟨d, v, rfl, sep⟩ := parts
        have same : d = x := (List.cons.inj (List.cons.inj eq).2).1
        rw [same] at sep
        rcases mark with rfl | rfl <;> simp at sep
      | cons d r =>
        have same : d = x := (List.cons.inj (List.cons.inj eq).2).1
        rw [same] at whole
        rcases mark with rfl | rfl
        · simp [Numeral.scan, Numeral.sign, Numeral.scanFraction, Numeral.scanExponent, isDigit]
            at whole
        · simp [Numeral.scan, Numeral.sign, Numeral.scanFraction, Numeral.scanExponent, isDigit]
            at whole
    rw [if_neg fun h => mark h.1]
    exact length
  · exact length

theorem next?_number {c : Char} {r u : List Char} {n : Numeral} (starts : StartsNumber c r)
    (whole : Numeral.scan (c :: r) = some (n, [])) (parts : Parts u) :
    next? (c :: r ++ u) = some (⟨.number, c :: r⟩, u) := by
  have start : startOf c (r ++ u) = .number := by
    refine startOf_of_startsNumber ?_
    rcases starts with digit | ⟨point, next⟩
    · exact Or.inl digit
    · refine Or.inr ⟨point, ?_⟩
      cases r with
      | nil => cases next
      | cons d r => exact next
  have after : (u.takeWhile isWordChar).length = 0 := by
    obtain ⟨d, v, rfl, -⟩ := id parts
    simp [parts.not_word d rfl]
  show some (first c (r ++ u)) = _
  unfold first
  simp only [start]
  unfold numberToken
  have take : numberTake (c :: (r ++ u)) = (c :: r).length := numberTake_whole whole parts
  have drop : (c :: (r ++ u)).drop (c :: r).length = u := List.drop_left
  have taken : (c :: (r ++ u)).take (c :: r).length = c :: r := List.take_left
  simp only [take, drop, after, if_true, head, taken]

/-- Digits are a number. -/
theorem next?_digits {s u : List Char} (any : s ≠ []) (digits : s.all isDigit = true)
    (parts : Parts u) : next? (s ++ u) = some (⟨.number, s⟩, u) := by
  cases s with
  | nil => exact absurd rfl any
  | cons c r =>
    have all := List.all_eq_true.mp digits
    have first := all c List.mem_cons_self
    have taken : (c :: r).takeWhile isDigit = c :: r := List.takeWhile_eq_self_iff.mpr all
    have dropped : (c :: r).dropWhile isDigit = [] := List.dropWhile_eq_nil_iff.mpr all
    refine next?_number (n := ⟨false, c :: r, none, none⟩) (Or.inl first) ?_ parts
    unfold Numeral.scan
    rw [Numeral.sign_of_digit first]
    simp only [taken, dropped]
    rfl

end EntityEngine.Sql.Token
