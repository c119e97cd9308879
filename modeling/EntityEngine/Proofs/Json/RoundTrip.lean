import EntityEngine.Json.Reading
import EntityEngine.Json.Text
import EntityEngine.Proofs.Number.Numeral
import Mathlib.Data.String.Basic

/-! The compact text of a JSON value is read back as that value, whatever text it has in it, if its
numbers are integers of 64 bits and arrays and objects are not nested too deep. -/

namespace EntityEngine.Json

open Number

mutual

/-- Numbers are integers of 64 bits, and the keys of an object ascend. -/
def IsPlain : Json → Prop
  | .integer n => inInt64 n = true
  | .real _ => False
  | .array vs => IsPlainItems vs
  | .object es => IsPlainEntries es ∧ es.Pairwise fun p q => p.1 < q.1
  | _ => True

def IsPlainItems : List Json → Prop
  | [] => True
  | v :: vs => IsPlain v ∧ IsPlainItems vs

def IsPlainEntries : List (String × Json) → Prop
  | [] => True
  | (_, v) :: es => IsPlain v ∧ IsPlainEntries es

end

mutual

/-- How deep arrays and objects are nested. -/
def nesting : Json → Nat
  | .array vs => itemsNesting vs + 1
  | .object es => entriesNesting es + 1
  | _ => 0

def itemsNesting : List Json → Nat
  | [] => 0
  | v :: vs => max (nesting v) (itemsNesting vs)

def entriesNesting : List (String × Json) → Nat
  | [] => 0
  | (_, v) :: es => max (nesting v) (entriesNesting es)

end

/-! ### Texts -/

namespace Reading

theorem hexDigitValue?_hexDigit : ∀ n < 16, hexDigitValue? (hexDigit n) = some n := by decide

/-- The unit that an escaped control character is written as. -/
theorem hex4?_control {n : Nat} (control : n < 32) (s : List Char) :
    hex4? ('0' :: '0' :: hexDigit (n / 16) :: hexDigit (n % 16) :: s) = some (n, s) := by
  have zero : hexDigitValue? '0' = some 0 := by decide
  have high := hexDigitValue?_hexDigit (n / 16) (by omega)
  have low := hexDigitValue?_hexDigit (n % 16) (by omega)
  have whole : 16 * (n / 16) + n % 16 = n := Nat.div_add_mod n 16
  simp only [hex4?, zero, high, low, Option.bind_eq_bind, Option.bind_some, Nat.mul_zero,
    Nat.zero_add, whole]

theorem scanText_escapeChar (c : Char) (fuel : Nat) (s : List Char) :
    scanText (fuel + 1) (escapeChar c ++ s) =
      (scanText fuel s).map fun p => (some c :: p.1, p.2) := by
  unfold escapeChar
  split
  · simp_all [scanText, simpleEscape?]
  split
  · simp_all [scanText, simpleEscape?]
  split
  · simp_all [scanText, simpleEscape?]
  split
  · simp_all [scanText, simpleEscape?]
  split
  · simp_all [scanText, simpleEscape?]
  split
  · rename_i back
    have char : c = '\x08' := Char.toNat_inj.mp back
    simp [scanText, simpleEscape?, char]
  split
  · rename_i feed
    have char : c = '\x0c' := Char.toNat_inj.mp feed
    simp [scanText, simpleEscape?, char]
  split
  · rename_i control
    have low : c.toNat < 0xD800 := by omega
    simp [scanText, hex4?_control control, unitsChar, low, Char.ofNat_toNat]
  · simp_all [scanText]

theorem scanText_escaped (cs rest : List Char) (fuel : Nat) (enough : cs.length < fuel) :
    scanText fuel (cs.flatMap escapeChar ++ '"' :: rest) = some (cs.map some, rest) := by
  induction cs generalizing fuel with
  | nil =>
    obtain ⟨fuel, rfl⟩ := Nat.exists_eq_succ_of_ne_zero (Nat.ne_of_gt enough)
    simp [scanText]
  | cons c cs ih =>
    obtain ⟨fuel, rfl⟩ := Nat.exists_eq_succ_of_ne_zero (Nat.ne_of_gt (Nat.zero_lt_of_lt enough))
    rw [List.flatMap_cons, List.append_assoc, scanText_escapeChar,
      ih fuel (Nat.lt_of_succ_lt_succ enough)]
    rfl

theorem escapeChar_length (c : Char) : 0 < (escapeChar c).length := by
  unfold escapeChar
  repeat' split
  all_goals simp

theorem escaped_length (cs : List Char) : cs.length ≤ (cs.flatMap escapeChar).length := by
  induction cs with
  | nil => exact Nat.le_refl 0
  | cons c cs ih =>
    have := escapeChar_length c
    simp only [List.length_cons, List.flatMap_cons, List.length_append]
    omega

theorem scanString_textChars (s : String) (rest : List Char) :
    scanString (s.toList.flatMap escapeChar ++ '"' :: rest) = some (some s, rest) := by
  have enough : s.toList.length < (s.toList.flatMap escapeChar ++ '"' :: rest).length + 1 := by
    have := escaped_length s.toList
    simp only [List.length_append, List.length_cons]
    omega
  have whole : ∀ cs : List Char, (cs.map some).mapM id = some cs := by
    intro cs
    induction cs with
    | nil => rfl
    | cons c cs ih => simp [ih]
  rw [scanString, scanText_escaped _ _ _ enough]
  simp only [Option.map_some, whole, String.ofList_toList]

/-! ### Integers -/

/-- What follows a value: nothing, or what goes on with an array or an object or ends it. -/
def Follows (rest : List Char) : Prop :=
  ∀ c ∈ rest.head?, c = ',' ∨ c = ']' ∨ c = '\x7d'

theorem toDigits_head (n : Nat) (positive : 0 < n) : (Nat.toDigits 10 n).head? ≠ some '0' := by
  induction n using Nat.strongRecOn with
  | _ n ih =>
    rw [Nat.toDigits_eq_if (by decide)]
    split
    · rename_i small
      have digits : ∀ n < 10, 0 < n → [Nat.digitChar n].head? ≠ some '0' := by decide
      exact digits n small positive
    · rename_i large
      have some : Nat.toDigits 10 (n / 10) ≠ [] := Nat.toDigits_ne_nil
      rw [List.head?_append_of_ne_nil _ some]
      exact ih (n / 10) (by omega) (by omega)

theorem isDigit_of_mem {n : Nat} : ∀ c ∈ Nat.toDigits 10 n, isDigit c = true := fun _ hc =>
  Nat.isDigit_of_mem_toDigits (by omega) (by omega) hc

theorem Follows.ends {rest : List Char} (follows : Follows rest) :
    scanFraction rest = some ([], rest) ∧ scanExponent rest = some (none, rest) ∧
      ∀ c ∈ rest.head?, isDigit c = false := by
  cases rest with
  | nil => exact ⟨rfl, rfl, fun c hc => nomatch hc⟩
  | cons c rest =>
    have start := follows c rfl
    refine ⟨?_, ?_, fun d hd => ?_⟩
    · rcases start with rfl | rfl | rfl <;> rfl
    · rcases start with rfl | rfl | rfl <;> rfl
    · obtain rfl : c = d := Option.some.inj hd
      rcases start with rfl | rfl | rfl <;> decide

theorem scanNumber_of_sign {s rest : List Char} {n : Nat} {negative : Bool} (follows : Follows rest)
    (signed : (match s with
      | '-' :: r => (true, r)
      | r => (false, r)) = (negative, Nat.toDigits 10 n ++ rest)) :
    scanNumber s = some (⟨negative, Nat.toDigits 10 n, [], none⟩, rest) := by
  obtain ⟨fraction, exponent, stop⟩ := follows.ends
  obtain ⟨taken, dropped⟩ := takeWhile_append_stop stop (Nat.toDigits 10 n)
  rw [List.takeWhile_eq_self_iff.mpr isDigit_of_mem] at taken
  rw [List.dropWhile_eq_nil_iff.mpr isDigit_of_mem, List.nil_append] at dropped
  have any : (Nat.toDigits 10 n).isEmpty = false := by simp [Nat.toDigits_ne_nil]
  have plain : ((Nat.toDigits 10 n).head? == some '0' && (Nat.toDigits 10 n).length ≠ 1) = false := by
    rcases Nat.eq_zero_or_pos n with rfl | positive
    · decide
    · have head := toDigits_head n positive
      simp [head]
  unfold scanNumber
  split
  rename_i sign s' eq
  obtain ⟨rfl, rfl⟩ := Prod.mk.inj (eq.symm.trans signed)
  simp only [taken, dropped, fraction, exponent, any, plain, Bool.or_self, Bool.false_eq_true,
    if_false]

theorem toDigits_cons (n : Nat) : ∃ d ds, Nat.toDigits 10 n = d :: ds ∧ isDigit d = true := by
  cases eq : Nat.toDigits 10 n with
  | nil => exact absurd eq Nat.toDigits_ne_nil
  | cons d ds => exact ⟨d, ds, rfl, isDigit_of_mem d (by rw [eq]; exact List.mem_cons_self)⟩

theorem scanNumber_minus {rest : List Char} (follows : Follows rest) (n : Nat) :
    scanNumber ('-' :: (Nat.toDigits 10 n ++ rest)) =
      some (⟨true, Nat.toDigits 10 n, [], none⟩, rest) := scanNumber_of_sign follows rfl

theorem scanNumber_digits {rest : List Char} (follows : Follows rest) (n : Nat) :
    scanNumber (Nat.toDigits 10 n ++ rest) =
      some (⟨false, Nat.toDigits 10 n, [], none⟩, rest) := by
  refine scanNumber_of_sign follows ?_
  obtain ⟨d, ds, eq, digit⟩ := toDigits_cons n
  split
  · rename_i start
    rw [eq, List.cons_append] at start
    rw [(List.cons.inj start).1] at digit
    cases digit
  · rfl

theorem toString_integer (n : Int) : (toString n).toList =
    if 0 ≤ n then Nat.toDigits 10 n.toNat else '-' :: Nat.toDigits 10 (-n).toNat := by
  rw [Int.toString_eq_repr, Int.repr_eq_if]
  split <;> simp [Nat.toList_repr]

theorem start_of_integer (n : Int) :
    ∃ c s, (toString n).toList = c :: s ∧ (c = '-' ∨ isDigit c = true) := by
  rw [toString_integer]
  split
  · obtain ⟨d, ds, eq, digit⟩ := toDigits_cons n.toNat
    exact ⟨d, ds, eq, Or.inr digit⟩
  · exact ⟨_, _, rfl, Or.inl rfl⟩

/-- An integer of 64 bits is read from its text. -/
theorem scanNumber_integer {n : Int} {rest : List Char} (follows : Follows rest)
    (fits : inInt64 n = true) : ∃ t, scanNumber ((toString n).toList ++ rest) = some (t, rest) ∧
      t.value? = some (.integer n) := by
  obtain ⟨low, high⟩ := Bool.and_eq_true_iff.mp fits
  replace low := of_decide_eq_true low
  replace high := of_decide_eq_true high
  rw [minInt64] at low
  rw [maxInt64] at high
  have read : ∀ m : Nat, ofDigits (Nat.toDigits 10 m) = m := fun m =>
    Nat.ofDigitChars_toDigits (by decide) (by decide)
  rw [toString_integer]
  split
  · rename_i positive
    refine ⟨_, scanNumber_digits follows n.toNat, ?_⟩
    have small : n.toNat ≤ maxSignificand := by rw [maxSignificand]; omega
    have value : (n.toNat : Int) = n := Int.toNat_of_nonneg positive
    simp [NumberText.value?, read, small, value]
  · rename_i negative
    refine ⟨_, scanNumber_minus follows (-n).toNat, ?_⟩
    have size : 0 < (-n).toNat ∧ (-n).toNat ≤ 0x8000000000000000 := by omega
    have value : -((-n).toNat : Int) = n := by omega
    simp only [NumberText.value?, read, size, value, List.isEmpty_nil, Option.isNone_none,
      Bool.and_self, if_true, decide_true]

/-! ### Values -/

theorem skip_cons {c : Char} (other : isSpace c = false) (s : List Char) :
    skip (c :: s) = c :: s := by
  rw [skip, List.dropWhile_cons, other, if_neg Bool.false_ne_true]

theorem isWhole_ofJson (v : Json) : (ofJson v).isWhole = true := by cases v <;> rfl

/-- The characters that a number starts with start nothing else. -/
theorem number_start {c : Char} (start : c = '-' ∨ isDigit c = true) :
    isSpace c = false ∧ c ≠ ']' ∧ c ≠ '\x7d' ∧ c ≠ '"' ∧ c ≠ '[' ∧ c ≠ '\x7b' := by
  refine ⟨?_, ?_, ?_, ?_, ?_, ?_⟩
  · rw [← Bool.not_eq_true]
    intro space
    simp only [isSpace, Bool.or_eq_true, decide_eq_true_eq] at space
    rcases space with ((rfl | rfl) | rfl) | rfl <;> revert start <;> decide
  all_goals
    rintro rfl
    revert start
    decide

/-- The first character of a value's text ends no array and no object. -/
theorem start_of_chars {v : Json} (plain : v.IsPlain) : ∃ c s, chars v = c :: s ∧
    isSpace c = false ∧ c ≠ ']' ∧ c ≠ '\x7d' := by
  cases v with
  | null => exact ⟨_, _, rfl, by decide⟩
  | bool b => cases b <;> exact ⟨_, _, rfl, by decide⟩
  | real x => exact plain.elim
  | text s => exact ⟨_, _, rfl, by decide⟩
  | array vs => exact ⟨_, _, rfl, by decide⟩
  | object es => exact ⟨_, _, rfl, by decide⟩
  | integer n =>
    obtain ⟨c, s, eq, start⟩ := start_of_integer n
    obtain ⟨space, array, object, -⟩ := number_start start
    exact ⟨c, s, eq, space, array, object⟩

theorem value_integer {n : Int} (fits : inInt64 n = true) (fuel : Nat) {rest : List Char}
    (follows : Follows rest) :
    value (fuel + 1) ((toString n).toList ++ rest) = (.number (some (.integer n)), rest) := by
  obtain ⟨t, scanned, read⟩ := scanNumber_integer follows fits
  obtain ⟨c, s, eq, start⟩ := start_of_integer n
  obtain ⟨space, -, -, text, array, object⟩ := number_start start
  rw [eq, List.cons_append] at scanned ⊢
  simp only [value, skip_cons space]
  rw [if_pos start, scanned]
  simp only [read]

theorem value_text (s : String) (fuel : Nat) (rest : List Char) :
    value (fuel + 1) (textChars s ++ rest) = (.text (some s), rest) := by
  have quote : isSpace '"' = false := by decide
  rw [textChars, List.cons_append, List.append_assoc]
  simp only [value, skip_cons quote, List.singleton_append, scanString_textChars]

theorem itemChars_cons (v w : Json) (vs : List Json) :
    itemChars (v :: w :: vs) = chars v ++ ',' :: itemChars (w :: vs) := rfl

theorem entryChars_cons (k : String) (v : Json) (e : String × Json) (es : List (String × Json)) :
    entryChars ((k, v) :: e :: es) = textChars k ++ ':' :: (chars v ++ ',' :: entryChars (e :: es)) :=
  rfl

/-- An array is read if its items are. -/
theorem value_array {v : Json} {vs : List Json} (plain : v.IsPlain) {fuel : Nat}
    {rest : List Char} {read : List Reading}
    (inside : items fuel (itemChars (v :: vs) ++ ']' :: rest) = (read, true, rest)) :
    value (fuel + 1) (chars (.array (v :: vs)) ++ rest) = (.array read true, rest) := by
  obtain ⟨c, s, eq, space, other, -⟩ := start_of_chars plain
  have start : ∃ t, itemChars (v :: vs) ++ ']' :: rest = c :: t := by
    cases vs with
    | nil => exact ⟨_, by rw [itemChars, eq]; rfl⟩
    | cons w vs => exact ⟨_, by rw [itemChars_cons, eq]; rfl⟩
  obtain ⟨t, first⟩ := start
  have opening : isSpace '[' = false := by decide
  rw [chars, List.cons_append, List.append_assoc, List.singleton_append, first]
  rw [first] at inside
  simp only [value, skip_cons opening, skip_cons space]
  split
  · rename_i same
    exact absurd (List.cons.inj same).1 other
  · simp only [inside]

theorem items_last {v : Json} {fuel : Nat} {rest : List Char}
    (read : value fuel (chars v ++ ']' :: rest) = (ofJson v, ']' :: rest)) :
    items (fuel + 1) (chars v ++ ']' :: rest) = ([ofJson v], true, rest) := by
  have closing : isSpace ']' = false := by decide
  simp only [items, read, isWhole_ofJson, if_true, skip_cons closing]

theorem items_cons {v : Json} {fuel : Nat} {s rest : List Char} {others : List Reading}
    (read : value fuel (chars v ++ ',' :: s) = (ofJson v, ',' :: s))
    (more : items fuel s = (others, true, rest)) :
    items (fuel + 1) (chars v ++ ',' :: s) = (ofJson v :: others, true, rest) := by
  have comma : isSpace ',' = false := by decide
  simp only [items, read, isWhole_ofJson, if_true, skip_cons comma, more]

/-- An object is read if its entries are. -/
theorem value_object {k : String} {v : Json} {es : List (String × Json)} {fuel : Nat}
    {rest : List Char} {read : List (Option String × Reading)}
    (inside : entries fuel (entryChars ((k, v) :: es) ++ '\x7d' :: rest) = (read, true, rest)) :
    value (fuel + 1) (chars (.object ((k, v) :: es)) ++ rest) = (.object read true, rest) := by
  have start : ∃ t, entryChars ((k, v) :: es) ++ '\x7d' :: rest = '"' :: t := by
    cases es with
    | nil => exact ⟨_, rfl⟩
    | cons e es => exact ⟨_, rfl⟩
  obtain ⟨t, first⟩ := start
  have opening : isSpace '\x7b' = false := by decide
  have quote : isSpace '"' = false := by decide
  rw [chars, List.cons_append, List.append_assoc, List.singleton_append, first]
  rw [first] at inside
  simp only [value, skip_cons opening, skip_cons quote]
  split
  · rename_i same
    exact absurd (List.cons.inj same).1 (by decide)
  · simp only [inside]

theorem entries_last {k : String} {v : Json} {fuel : Nat} {rest : List Char}
    (read : value fuel (chars v ++ '\x7d' :: rest) = (ofJson v, '\x7d' :: rest)) :
    entries (fuel + 1) (textChars k ++ ':' :: (chars v ++ '\x7d' :: rest)) =
      ([(some k, ofJson v)], true, rest) := by
  have quote : isSpace '"' = false := by decide
  have colon : isSpace ':' = false := by decide
  have closing : isSpace '\x7d' = false := by decide
  rw [textChars, List.cons_append, List.append_assoc, List.singleton_append]
  simp only [entries, skip_cons quote, scanString_textChars, skip_cons colon, read, isWhole_ofJson,
    if_true, skip_cons closing]

theorem entries_cons {k : String} {v : Json} {fuel : Nat} {s rest : List Char}
    {others : List (Option String × Reading)}
    (read : value fuel (chars v ++ ',' :: s) = (ofJson v, ',' :: s))
    (more : entries fuel s = (others, true, rest)) :
    entries (fuel + 1) (textChars k ++ ':' :: (chars v ++ ',' :: s)) =
      ((some k, ofJson v) :: others, true, rest) := by
  have quote : isSpace '"' = false := by decide
  have colon : isSpace ':' = false := by decide
  have comma : isSpace ',' = false := by decide
  rw [textChars, List.cons_append, List.append_assoc, List.singleton_append]
  simp only [entries, skip_cons quote, scanString_textChars, skip_cons colon, read, isWhole_ofJson,
    if_true, skip_cons comma, more]

theorem length_chars_pos {v : Json} (plain : v.IsPlain) : 0 < (chars v).length := by
  obtain ⟨c, s, eq, -⟩ := start_of_chars plain
  simp [eq]

theorem follows_of_comma (s : List Char) : Follows (',' :: s) := fun _ hc =>
  Or.inl (Option.some.inj hc).symm

theorem follows_of_bracket (s : List Char) : Follows (']' :: s) := fun _ hc =>
  Or.inr (Or.inl (Option.some.inj hc).symm)

theorem follows_of_brace (s : List Char) : Follows ('\x7d' :: s) := fun _ hc =>
  Or.inr (Or.inr (Option.some.inj hc).symm)

mutual

/-- A value is read from its text, whatever follows in an array or an object. -/
theorem value_chars : ∀ v : Json, v.IsPlain → ∀ (fuel : Nat) (rest : List Char),
    (chars v).length ≤ fuel → Follows rest → value fuel (chars v ++ rest) = (ofJson v, rest)
  | v, plain, 0, rest, enough, _ => by
    have := length_chars_pos plain
    omega
  | .null, _, _ + 1, _, _, _ => rfl
  | .bool true, _, _ + 1, _, _, _ => rfl
  | .bool false, _, _ + 1, _, _, _ => rfl
  | .integer _, fits, fuel + 1, _, _, follows => value_integer fits fuel follows
  | .real _, plain, _, _, _, _ => plain.elim
  | .text s, _, fuel + 1, rest, _, _ => value_text s fuel rest
  | .array [], _, _ + 1, _, _, _ => rfl
  | .array (v :: vs), plain, fuel + 1, rest, enough, _ => by
    have inside : (itemChars (v :: vs)).length < fuel := by
      simp only [chars, List.length_cons, List.length_append, List.length_nil] at enough
      omega
    exact value_array plain.1 (items_itemChars (v :: vs) (List.cons_ne_nil v vs) plain fuel rest
      inside)
  | .object [], _, _ + 1, _, _, _ => rfl
  | .object ((k, v) :: es), plain, fuel + 1, rest, enough, _ => by
    have inside : (entryChars ((k, v) :: es)).length < fuel := by
      simp only [chars, List.length_cons, List.length_append, List.length_nil] at enough
      omega
    exact value_object (entries_entryChars ((k, v) :: es) (List.cons_ne_nil (k, v) es) plain.1 fuel
      rest inside)

theorem items_itemChars : ∀ vs : List Json, vs ≠ [] → IsPlainItems vs →
    ∀ (fuel : Nat) (rest : List Char), (itemChars vs).length < fuel →
      items fuel (itemChars vs ++ ']' :: rest) = (ofItems vs, true, rest)
  | _, _, _, 0, _, enough => absurd enough (Nat.not_lt_zero _)
  | [], any, _, _, _, _ => absurd rfl any
  | [v], _, plain, fuel + 1, rest, enough => by
    have fits : (chars v).length ≤ fuel := Nat.le_of_lt_succ enough
    exact items_last (value_chars v plain.1 fuel (']' :: rest) fits (follows_of_bracket rest))
  | v :: w :: vs, _, plain, fuel + 1, rest, enough => by
    -- A unit of fuel goes into each item, which is no more than its comma takes.
    have first := length_chars_pos plain.1
    simp only [itemChars_cons, List.length_append, List.length_cons] at enough
    rw [itemChars_cons, List.append_assoc, List.cons_append]
    refine items_cons (value_chars v plain.1 fuel _ (by omega) (follows_of_comma _)) ?_
    exact items_itemChars (w :: vs) (List.cons_ne_nil w vs) plain.2 fuel rest (by omega)

theorem entries_entryChars : ∀ es : List (String × Json), es ≠ [] → IsPlainEntries es →
    ∀ (fuel : Nat) (rest : List Char), (entryChars es).length < fuel →
      entries fuel (entryChars es ++ '\x7d' :: rest) = (ofEntries es, true, rest)
  | _, _, _, 0, _, enough => absurd enough (Nat.not_lt_zero _)
  | [], any, _, _, _, _ => absurd rfl any
  | [(k, v)], _, plain, fuel + 1, rest, enough => by
    simp only [entryChars, List.length_append, List.length_cons] at enough
    rw [entryChars, List.append_assoc, List.cons_append]
    exact entries_last (value_chars v plain.1 fuel _ (by omega) (follows_of_brace rest))
  | (k, v) :: e :: es, _, plain, fuel + 1, rest, enough => by
    simp only [entryChars_cons, List.length_append, List.length_cons] at enough
    rw [entryChars_cons, List.append_assoc, List.cons_append, List.append_assoc, List.cons_append]
    refine entries_cons (value_chars v plain.1 fuel _ (by omega) (follows_of_comma _)) ?_
    exact entries_entryChars (e :: es) (List.cons_ne_nil e es) plain.2 fuel rest (by omega)

end

/-! ### Values within the bound -/

/-- A map whose keys ascend is the map of its entries. -/
theorem ofEntries_of_pairwise {es : List (String × Json)}
    (ascend : es.Pairwise fun p q => p.1 < q.1) : ValueMap.ofEntries es = es := by
  have last : ∀ (m : List (String × Json)) (p : String × Json), (∀ q ∈ m, q.1 < p.1) →
      ValueMap.insert p.1 p.2 m = m ++ [p] := by
    intro m p above
    induction m with
    | nil => rfl
    | cons q m ih =>
      obtain ⟨less, others⟩ := List.forall_mem_cons.mp above
      rw [ValueMap.insert, if_neg (String.lt_asymm less), if_neg (fun same => ?_), ih others]
      · rfl
      · rw [same] at less
        exact String.lt_irrefl _ less
  have all : ∀ (m es : List (String × Json)), (m ++ es).Pairwise (fun p q => p.1 < q.1) →
      es.foldl (fun m p => ValueMap.insert p.1 p.2 m) m = m ++ es := by
    intro m es ascend
    induction es generalizing m with
    | nil => rw [List.foldl_nil, List.append_nil]
    | cons p es ih =>
      have above : ∀ q ∈ m, q.1 < p.1 := fun q hq =>
        (List.pairwise_append.mp ascend).2.2 q hq p List.mem_cons_self
      rw [List.foldl_cons, last m p above, ih (m ++ [p]) (by simpa using ascend)]
      simp
  exact all [] es ascend

mutual

/-- What is read of a value's text is the value, if it is not nested too deep. -/
theorem toJson?_ofJson : ∀ v : Json, v.IsPlain → ∀ bound, 0 < bound →
    toJson? bound (ofJson v) = if v.nesting < bound then some v else none
  | .null, _, _, positive => (if_pos positive).symm
  | .bool _, _, _, positive => (if_pos positive).symm
  | .integer _, _, _, positive => (if_pos positive).symm
  | .real _, plain, _, _ => plain.elim
  | .text _, _, _, positive => (if_pos positive).symm
  | .array vs, plain, bound, _ => by
    -- What stands inside is read with a bound that is smaller by one.
    rw [ofJson, toJson?, nesting, Bool.true_and]
    by_cases deep : 1 < bound
    · rw [if_pos (decide_eq_true deep), toItems?_ofItems vs plain (bound - 1) (by omega)]
      by_cases fits : itemsNesting vs < bound - 1
      · rw [if_pos fits, if_pos (by omega), Option.map_some]
      · rw [if_neg fits, if_neg (by omega), Option.map_none]
    · rw [if_neg (by simpa using deep), if_neg (by omega)]
  | .object es, plain, bound, _ => by
    rw [ofJson, toJson?, nesting, Bool.true_and]
    by_cases deep : 1 < bound
    · rw [if_pos (decide_eq_true deep), toEntries?_ofEntries es plain.1 (bound - 1) (by omega)]
      by_cases fits : entriesNesting es < bound - 1
      · rw [if_pos fits, if_pos (by omega), Option.map_some, ofEntries_of_pairwise plain.2]
      · rw [if_neg fits, if_neg (by omega), Option.map_none]
    · rw [if_neg (by simpa using deep), if_neg (by omega)]

theorem toItems?_ofItems : ∀ vs : List Json, IsPlainItems vs → ∀ bound, 0 < bound →
    toItems? bound (ofItems vs) = if itemsNesting vs < bound then some vs else none
  | [], _, _, positive => (if_pos positive).symm
  | v :: vs, plain, bound, positive => by
    have both : itemsNesting (v :: vs) < bound ↔ v.nesting < bound ∧ itemsNesting vs < bound := by
      rw [itemsNesting, Nat.max_lt]
    simp only [ofItems, toItems?, toJson?_ofJson v plain.1 bound positive,
      toItems?_ofItems vs plain.2 bound positive]
    by_cases first : v.nesting < bound
    · by_cases others : itemsNesting vs < bound
      · rw [if_pos first, if_pos others, if_pos (both.mpr ⟨first, others⟩)]
      · rw [if_pos first, if_neg others, if_neg fun fits => others (both.mp fits).2]
    · rw [if_neg first, if_neg fun fits => first (both.mp fits).1]

theorem toEntries?_ofEntries : ∀ es : List (String × Json), IsPlainEntries es →
    ∀ bound, 0 < bound →
      toEntries? bound (ofEntries es) = if entriesNesting es < bound then some es else none
  | [], _, _, positive => (if_pos positive).symm
  | (k, v) :: es, plain, bound, positive => by
    have both : entriesNesting ((k, v) :: es) < bound ↔
        v.nesting < bound ∧ entriesNesting es < bound := by
      rw [entriesNesting, Nat.max_lt]
    simp only [ofEntries, toEntries?, toJson?_ofJson v plain.1 bound positive,
      toEntries?_ofEntries es plain.2 bound positive]
    by_cases first : v.nesting < bound
    · by_cases others : entriesNesting es < bound
      · rw [if_pos first, if_pos others, if_pos (both.mpr ⟨first, others⟩)]
      · rw [if_pos first, if_neg others, if_neg fun fits => others (both.mp fits).2]
    · rw [if_neg first, if_neg fun fits => first (both.mp fits).1]

end

end Reading

open Reading

/-- The text of a value is read back as the value, exactly if it is not nested too deep. -/
theorem parse?_render {v : Json} (plain : v.IsPlain) :
    parse? v.render = if v.nesting < nestingBound then some v else none := by
  have nothing : Follows [] := fun _ hc => nomatch hc
  have read := value_chars v plain (v.chars.length + 1) [] (Nat.le_succ _) nothing
  rw [List.append_nil] at read
  have whole : ofText v.render = (ofJson v, true) := by
    rw [ofText, render, String.toList_ofList, read]
    rfl
  rw [parse?, whole]
  exact toJson?_ofJson v plain nestingBound (by decide)

end EntityEngine.Json
