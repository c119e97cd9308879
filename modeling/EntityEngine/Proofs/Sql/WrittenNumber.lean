import EntityEngine.Proofs.Json.RoundTrip
import EntityEngine.Proofs.Sql.NumberText

/-! The texts that numbers are written as in JSON. Each of them is one numeral from end to end, and
so a number for the database. -/

namespace EntityEngine

open Number Sql

namespace Number

/-- Digits, and perhaps a point and more digits behind them. -/
inductive IsDecimal : List Char → Prop
  | whole {w : List Char} : w ≠ [] → w.all isDigit = true → IsDecimal w
  | pointed {w f : List Char} : w ≠ [] → w.all isDigit = true → f.all isDigit = true →
      IsDecimal (w ++ '.' :: f)

/-- An exponent with its sign, or none. -/
inductive IsExponent : List Char → Prop
  | none : IsExponent []
  | marked (n : Nat) {c : Char} : c = '-' ∨ c = '+' → IsExponent ('e' :: c :: Nat.toDigits 10 n)

/-! ### Reading -/

theorem IsDecimal.start {d : List Char} (h : IsDecimal d) : ∃ c r, d = c :: r ∧ isDigit c = true := by
  have first : ∀ {w : List Char}, w ≠ [] → w.all isDigit = true →
      ∃ c r, w = c :: r ∧ isDigit c = true := by
    intro w some all
    obtain ⟨c, r, rfl⟩ := List.exists_cons_of_ne_nil some
    exact ⟨c, r, rfl, List.all_eq_true.mp all c List.mem_cons_self⟩
  cases h with
  | whole some all => exact first some all
  | pointed some all _ =>
    obtain ⟨c, r, rfl, digit⟩ := first some all
    exact ⟨c, _, rfl, digit⟩

theorem IsExponent.head {x : List Char} (h : IsExponent x) : ∀ c ∈ x.head?, isDigit c = false := by
  cases h with
  | none => exact fun c hc => nomatch hc
  | marked _ _ =>
    intro c hc
    rw [← Option.some.inj hc]
    decide

theorem IsExponent.scanFraction {x : List Char} (h : IsExponent x) :
    Numeral.scanFraction x = (Option.none, x) := by
  cases h with
  | none => rfl
  | marked _ _ => exact Numeral.scanFraction_cons _ _

theorem IsExponent.scanExponent {x : List Char} (h : IsExponent x) :
    (Numeral.scanExponent x).2 = [] := by
  cases h with
  | none => rfl
  | @marked n c sign =>
    have signed : ∃ negative, Numeral.sign (c :: Nat.toDigits 10 n) =
        (negative, Nat.toDigits 10 n) := by
      rcases sign with rfl | rfl
      · exact ⟨true, rfl⟩
      · exact ⟨false, rfl⟩
    obtain ⟨negative, signed⟩ := signed
    have digits : (Nat.toDigits 10 n).takeWhile isDigit = Nat.toDigits 10 n :=
      List.takeWhile_eq_self_iff.mpr Json.Reading.isDigit_of_mem
    have rest : (Nat.toDigits 10 n).dropWhile isDigit = [] :=
      List.dropWhile_eq_nil_iff.mpr Json.Reading.isDigit_of_mem
    obtain ⟨d, ds, cons, -⟩ := Json.Reading.toDigits_cons n
    rw [cons] at signed digits rest ⊢
    simp only [Numeral.scanExponent, signed, digits, rest, true_or, if_true]

/-- A decimal with an exponent behind it is a numeral as a whole. -/
theorem scan_decimal {s d x : List Char} {negative : Bool}
    (signed : Numeral.sign s = (negative, d ++ x)) (decimal : IsDecimal d)
    (exponent : IsExponent x) : ∃ m, Numeral.scan s = some (m, []) := by
  unfold Numeral.scan
  rw [signed]
  -- The exponent starts with no digit, so the digits in front of it end there.
  cases decimal with
  | whole some all =>
    obtain ⟨taken, dropped⟩ := takeWhile_append_stop exponent.head d
    rw [List.takeWhile_eq_self_iff.mpr (List.all_eq_true.mp all)] at taken
    rw [List.dropWhile_eq_nil_iff.mpr (List.all_eq_true.mp all), List.nil_append] at dropped
    have given : d.isEmpty = false := by simpa using some
    simp only [taken, dropped, exponent.scanFraction, given, Bool.false_and,
      if_neg Bool.false_ne_true, exponent.scanExponent]
    exact ⟨_, rfl⟩
  | @pointed w f some all more =>
    have stop : ∀ c ∈ ('.' :: (f ++ x)).head?, isDigit c = false := by
      intro c hc
      rw [← Option.some.inj hc]
      decide
    obtain ⟨taken, dropped⟩ := takeWhile_append_stop stop w
    rw [List.takeWhile_eq_self_iff.mpr (List.all_eq_true.mp all)] at taken
    rw [List.dropWhile_eq_nil_iff.mpr (List.all_eq_true.mp all), List.nil_append] at dropped
    have rest : (f ++ x).dropWhile isDigit = x := by
      rw [(takeWhile_append_stop exponent.head f).2,
        List.dropWhile_eq_nil_iff.mpr (List.all_eq_true.mp more), List.nil_append]
    have given : w.isEmpty = false := by simpa using some
    simp only [List.append_assoc, List.cons_append, taken, dropped, Numeral.scanFraction_cons,
      if_true, rest, given, Bool.false_and, if_neg Bool.false_ne_true, exponent.scanExponent]
    exact ⟨_, rfl⟩

/-! ### Writing -/

theorem all_decimalOf (n : Nat) (step : Int) : (decimalOf n step).digits.all isDigit = true := by
  refine List.all_eq_true.mpr fun c hc => Json.Reading.isDigit_of_mem (n := n) c ?_
  have kept := (List.dropWhile_sublist (· == '0')).subset (List.mem_reverse.mp hc)
  exact List.mem_reverse.mp kept

theorem all_shortest (x : Float) : (shortest x).digits.all isDigit = true := by
  have all : ∀ (top : Int) (fuel n : Nat), (shortestFrom x top n fuel).digits.all isDigit = true := by
    intro top fuel
    induction fuel with
    | zero => exact fun n => all_decimalOf _ _
    | succ fuel ih =>
      intro n
      rw [shortestFrom]
      split
      · exact all_decimalOf _ _
      · exact ih (n + 1)
  exact all _ _ _

theorem IsDecimal.positional {d : Decimal} (all : d.digits.all isDigit = true) :
    IsDecimal (positional d) := by
  have zeros : ∀ n, (List.replicate n '0').all isDigit = true := fun n =>
    List.all_eq_true.mpr fun c hc => by rw [List.eq_of_mem_replicate hc]; decide
  unfold Number.positional
  split
  · exact .pointed (w := ['0']) (List.cons_ne_nil _ _) (by decide)
      (by rw [List.all_append, zeros, all, Bool.and_self])
  · rename_i positive
    dsimp only
    split
    · rename_i short
      refine .pointed (f := ['0']) (fun none => ?_) ?_ (by decide)
      · have length := congrArg List.length none
        simp only [List.length_append, List.length_replicate, List.length_nil] at length
        omega
      · rw [List.all_append, zeros, all, Bool.and_self]
    · rename_i long
      have digit := List.all_eq_true.mp all
      refine .pointed (fun none => ?_) (List.all_eq_true.mpr fun c hc =>
        digit c (List.mem_of_mem_take hc)) (List.all_eq_true.mpr fun c hc =>
        digit c (List.mem_of_mem_drop hc))
      have length := congrArg List.length none
      simp only [List.length_take, List.length_nil] at length
      omega

theorem IsDecimal.leading {d : Decimal} (all : d.digits.all isDigit = true) :
    IsDecimal (leading d false) := by
  unfold Number.leading
  split
  · exact .whole (List.cons_ne_nil _ _) (by decide)
  · rename_i c digits
    rw [digits] at all
    exact .whole (List.cons_ne_nil _ _) all
  · rename_i c r _ digits
    rw [digits, List.all_cons, Bool.and_eq_true] at all
    exact .pointed (w := [c]) (List.cons_ne_nil _ _) (by simp [all.1]) all.2

end Number

namespace Sql

/-! ### Integers -/

theorem scan_integer (n : Int) : ∃ m, Numeral.scan (toString n).toList = some (m, []) ∧
    m.isInteger = true ∧ m.toInteger = n := by
  have read : ∀ m : Nat, ofDigits (Nat.toDigits 10 m) = m := fun m =>
    Nat.ofDigitChars_toDigits (by decide) (by decide)
  have digits : ∀ m : Nat, (Nat.toDigits 10 m).all isDigit = true := fun m =>
    List.all_eq_true.mpr Json.Reading.isDigit_of_mem
  obtain ⟨negative, m, signed, value⟩ : ∃ negative m,
      Numeral.sign (toString n).toList = (negative, Nat.toDigits 10 m) ∧
        Numeral.signedValue negative (Nat.toDigits 10 m) = n := by
    rw [Json.Reading.toString_integer]
    split
    · obtain ⟨d, ds, eq, digit⟩ := Json.Reading.toDigits_cons n.toNat
      refine ⟨false, n.toNat, ?_, ?_⟩
      · rw [eq, Numeral.sign_of_digit digit]
      · simp only [Numeral.signedValue, read, Bool.false_eq_true, if_false]
        omega
    · refine ⟨true, (-n).toNat, rfl, ?_⟩
      simp only [Numeral.signedValue, read, if_true]
      omega
  exact ⟨_, Numeral.scan_of_digits signed Nat.toDigits_ne_nil (digits m), rfl, value⟩

/-- A text that is a numeral without white space in front is a number. -/
theorem numeric?_of_scan {s : String} {c : Char} {r : List Char} {m : Numeral}
    (start : s.toList = c :: r) (first : c = '-' ∨ isDigit c = true)
    (scanned : Numeral.scan s.toList = some (m, [])) : numeric? s = some (numeralValue m) := by
  have blank : isSpace c = false := by
    rcases first with rfl | digit
    · decide
    · cases space : isSpace c with
      | false => rfl
      | true =>
        have none := (not_numeral_of_isBlank (isBlank_of_isSpace space)).1
        rw [digit] at none
        cases none
  have whole : s.toList.dropWhile isSpace = s.toList := by
    rw [start, List.dropWhile_cons, blank, if_neg Bool.false_ne_true]
  rw [numeric?, whole, scanned]
  rfl

theorem exists_numeric?_integer (n : Int) : ∃ m, numeric? (toString n) = some (numeralValue m) ∧
    m.isInteger = true ∧ m.toInteger = n := by
  obtain ⟨m, scanned, integer, value⟩ := scan_integer n
  obtain ⟨c, s, start, first⟩ := Json.Reading.start_of_integer n
  exact ⟨m, numeric?_of_scan start first scanned, integer, value⟩

theorem numeric?_integer {n : Int} (fits : inInt64 n = true) :
    numeric? (toString n) = some (.integer n) := by
  obtain ⟨m, read, integer, value⟩ := exists_numeric?_integer n
  rw [read, numeralValue, integer, value, fits]
  rfl

end Sql

/-! ### Doubles -/

/-- The text of a double that JSON has a number for: a sign, a decimal, and an exponent. -/
theorem Json.realChars_cases {x : Float} (finite : isSpecial x = false) :
    ∃ sign d e, realChars x = sign ++ (d ++ e) ∧ (sign = [] ∨ sign = ['-']) ∧ IsDecimal d ∧
      IsExponent e := by
  have sign : (if isNegative x then ['-'] else []) = [] ∨
      (if isNegative x then ['-'] else []) = ['-'] := by
    cases isNegative x
    · exact Or.inl rfl
    · exact Or.inr rfl
  unfold realChars
  rw [finite, if_neg Bool.false_ne_true]
  dsimp only
  split
  · exact ⟨_, _, [], by simp, sign, .pointed (w := ['0']) (f := ['0']) (List.cons_ne_nil _ _)
      (by decide) (by decide), .none⟩
  · split
    · exact ⟨_, _, [], by rw [List.append_nil], sign, .positional (all_shortest x), .none⟩
    · have exponent : IsExponent
          ((if (shortest x).point - 1 < 0 then ['e', '-'] else ['e', '+']) ++
            Nat.toDigits 10 ((shortest x).point - 1).natAbs) := by
        split
        · exact .marked _ (Or.inl rfl)
        · exact .marked _ (Or.inr rfl)
      exact ⟨_, _, _, by simp only [List.append_assoc], sign, .leading (all_shortest x), exponent⟩

/-- It starts with a sign or a digit. -/
theorem Json.start_of_real {x : Float} (finite : isSpecial x = false) :
    ∃ c r, realChars x = c :: r ∧ (c = '-' ∨ isDigit c = true) := by
  obtain ⟨sign, d, e, eq, signed, decimal, -⟩ := realChars_cases finite
  obtain ⟨c, r, rfl, digit⟩ := decimal.start
  rcases signed with rfl | rfl
  · exact ⟨c, r ++ e, eq, Or.inr digit⟩
  · exact ⟨'-', _, eq, Or.inl rfl⟩

theorem Sql.numeric?_real {x : Float} (finite : isSpecial x = false) :
    ∃ m, numeric? (Json.real x).render = some (numeralValue m) := by
  have text : (Json.real x).render.toList = Json.realChars x := String.toList_ofList
  obtain ⟨c, r, start, first⟩ := Json.start_of_real finite
  obtain ⟨sign, d, e, eq, signed, decimal, exponent⟩ := Json.realChars_cases finite
  obtain ⟨negative, unsigned⟩ : ∃ negative, Numeral.sign (Json.realChars x) = (negative, d ++ e) := by
    rw [eq]
    rcases signed with rfl | rfl
    · obtain ⟨c, r, rfl, digit⟩ := decimal.start
      exact ⟨false, Numeral.sign_of_digit digit (r ++ e)⟩
    · exact ⟨true, rfl⟩
  obtain ⟨m, scanned⟩ := scan_decimal unsigned decimal exponent
  rw [← text] at start scanned
  exact ⟨m, numeric?_of_scan start first scanned⟩

end EntityEngine
