import EntityEngine.Proofs.Sql.Locality
import EntityEngine.Proofs.Sql.Whole
import Mathlib.Data.List.DropRight

/-! Pieces of text that are read by themselves. What stands inside of a statement is made of tokens,
none of which ends the statement, and closes the parentheses that it opens. A caller's text is
delimited if it is that, and if none of its tokens can go on behind it. -/

namespace EntityEngine.Sql

open Token

/-! ### Tokens inside of a statement -/

/-- How many parentheses are open after some tokens where some are open before; none if one is
closed that is not open. -/
def openAfter : Nat → List Token → Option Nat
  | n, [] => some n
  | n, t :: ts =>
    if t.isWord "(" then openAfter (n + 1) ts
    else if t.isWord ")" then if 0 < n then openAfter (n - 1) ts else none
    else openAfter n ts

/-- Tokens that may stand inside of a statement. -/
structure IsInner (ts : List Token) : Prop where
  legal : ∀ t ∈ ts, t.kind ≠ .illegal
  single : ∀ t ∈ ts, t.isWord ";" = false
  balanced : openAfter 0 ts = some 0

theorem openAfter_append (n : Nat) (a b : List Token) :
    openAfter n (a ++ b) = (openAfter n a).bind fun m => openAfter m b := by
  induction a generalizing n with
  | nil => rfl
  | cons t a ih =>
    rw [List.cons_append, openAfter, openAfter]
    split
    · exact ih (n + 1)
    · split
      · split
        · exact ih (n - 1)
        · rfl
      · exact ih n

/-- More parentheses may be open before. -/
theorem openAfter_add {m k : Nat} {ts : List Token} (n : Nat) (h : openAfter m ts = some k) :
    openAfter (n + m) ts = some (n + k) := by
  induction ts generalizing m with
  | nil => rw [openAfter, Option.some.inj h]
  | cons t ts ih =>
    rw [openAfter] at h ⊢
    split
    · rename_i opens
      rw [if_pos opens] at h
      exact ih h
    · rename_i opens
      rw [if_neg opens] at h
      split
      · rename_i closes
        rw [if_pos closes] at h
        split at h
        · rename_i pos
          rw [if_pos (by omega), Nat.add_sub_assoc pos]
          exact ih h
        · cases h
      · rename_i closes
        rw [if_neg closes] at h
        exact ih h

theorem IsInner.openAfter_append {a : List Token} (h : IsInner a) (n : Nat) (b : List Token) :
    openAfter n (a ++ b) = openAfter n b := by
  have same := openAfter_add n h.balanced
  rw [Nat.add_zero] at same
  rw [Sql.openAfter_append, same, Option.bind_some]

theorem IsInner.nil : IsInner [] := ⟨by simp, by simp, rfl⟩

theorem IsInner.append {a b : List Token} (ha : IsInner a) (hb : IsInner b) : IsInner (a ++ b) := by
  refine ⟨?_, ?_, ?_⟩
  · intro t ht
    rcases List.mem_append.mp ht with ht | ht
    · exact ha.legal t ht
    · exact hb.legal t ht
  · intro t ht
    rcases List.mem_append.mp ht with ht | ht
    · exact ha.single t ht
    · exact hb.single t ht
  · rw [ha.openAfter_append, hb.balanced]

/-! ### Reading piece by piece -/

namespace Token

/-- The tokens of a text behind the blanks that it starts with. -/
def scanned (s : List Char) : List Token := scan (s.dropWhile isBlankChar)

theorem scanned_blank {c : Char} (h : isBlankChar c = true) (s : List Char) :
    scanned (c :: s) = scanned s := by
  rw [scanned, List.dropWhile_cons_of_pos h, scanned]

theorem next?_blank {c : Char} (h : isBlankChar c = true) (s : List Char) :
    next? (c :: s) = some (⟨.blank, (c :: s).takeWhile isBlankChar⟩, s.dropWhile isBlankChar) := by
  have start : startOf c s = .blank := by rw [startOf, if_pos h]
  show some (first c s) = _
  unfold first
  simp only [start]
  rw [Reach.head_takeWhile, List.dropWhile_cons_of_pos h]

/-- Only a blank is lost. -/
theorem scan_scanned (s : List Char) :
    ∃ blanks, blanks.filter isMeaningful = [] ∧ scan s = blanks ++ scanned s := by
  cases s with
  | nil => exact ⟨[], rfl, rfl⟩
  | cons c s =>
    cases blank : isBlankChar c with
    | false =>
      refine ⟨[], rfl, ?_⟩
      have ne : ¬ isBlankChar c = true := by simp [blank]
      rw [scanned, List.dropWhile_cons_of_neg ne, List.nil_append]
    | true =>
      refine ⟨[⟨.blank, (c :: s).takeWhile isBlankChar⟩], rfl, ?_⟩
      rw [scan_eq (next?_blank blank s), scanned_blank blank, scanned]
      rfl

theorem scanned_blanks {s : List Char} (all : s.all isBlankChar = true) (v : List Char) :
    scanned (s ++ v) = scanned v := by
  rw [scanned, List.dropWhile_append_of_pos (List.all_eq_true.mp all), scanned]

theorem scan_blanks {c : Char} {s : List Char} (all : (c :: s).all isBlankChar = true) :
    scan (c :: s) = [⟨.blank, c :: s⟩] := by
  have each := List.all_eq_true.mp all
  have taken : (c :: s).takeWhile isBlankChar = c :: s := List.takeWhile_eq_self_iff.mpr each
  have dropped : s.dropWhile isBlankChar = [] :=
    List.dropWhile_eq_nil_iff.mpr fun d hd => each d (List.mem_cons_of_mem _ hd)
  rw [scan_eq (next?_blank (each c List.mem_cons_self) s), taken, dropped, scan_nil]

theorem scanned_of_next {x y : List Char} {t : Token} (h : next? x = some (t, y)) :
    ∃ read, read.filter isMeaningful = [t].filter isMeaningful ∧ scanned x = read ++ scanned y := by
  cases x with
  | nil => cases h
  | cons c s =>
    cases blank : isBlankChar c with
    | false =>
      obtain ⟨blanks, none, eq⟩ := scan_scanned y
      have ne : ¬ isBlankChar c = true := by simp [blank]
      refine ⟨t :: blanks, ?_, ?_⟩
      · rw [List.filter_cons, List.filter_cons, none]
        rfl
      · rw [scanned, List.dropWhile_cons_of_neg ne, scan_eq h, eq]
        rfl
    | true =>
      rw [next?_blank blank] at h
      obtain ⟨rfl, rfl⟩ := Prod.mk.inj (Option.some.inj h)
      refine ⟨[], rfl, ?_⟩
      rw [scanned_blank blank, scanned, scanned, List.dropWhile_idempotent]
      rfl

end Token

/-- Whatever parts a text from what follows, it is read by itself as some tokens. -/
def Reads (s : List Char) (ts : List Token) : Prop :=
  ∀ v, Parts v → ∃ read, read.filter isMeaningful = ts ∧ scanned (s ++ v) = read ++ scanned v

namespace Reads

variable {a b s : List Char} {ts us : List Token}

theorem nil : Reads [] [] := fun _ _ => ⟨[], rfl, rfl⟩

theorem blank (h : Reads s ts) {c : Char} (blank : isBlankChar c = true) : Reads (c :: s) ts := by
  intro v hv
  rw [List.cons_append, scanned_blank blank]
  exact h v hv

theorem append (ha : Reads a ts) (hb : Reads b us) (parts : ∀ v, Parts v → Parts (b ++ v)) :
    Reads (a ++ b) (ts ++ us) := by
  intro v hv
  obtain ⟨first, firstRead, eq⟩ := ha (b ++ v) (parts v hv)
  obtain ⟨second, secondRead, eq'⟩ := hb v hv
  refine ⟨first ++ second, ?_, ?_⟩
  · rw [List.filter_append, firstRead, secondRead]
  · rw [List.append_assoc, eq, eq', List.append_assoc]

theorem of_next {t : Token} (h : ∀ v, Parts v → next? (s ++ v) = some (t, v)) :
    Reads s ([t].filter isMeaningful) := fun v hv => scanned_of_next (h v hv)

end Reads

/-! ### Delimited texts -/

/-- A text that is read by itself in front of whatever parts it, and whose tokens may stand inside of
a statement. -/
structure Delimited (s : List Char) : Prop where
  whole : IsWhole s
  /-- A blank behind the text is read as that. -/
  ends : (scan (s ++ [' '])).getLast?.any (fun t => t.kind = .blank) = true
  inner : IsInner ((scan (s ++ [' '])).filter isMeaningful)

theorem scan_append_ne_nil (r : List Char) {v : List Char} (some : v ≠ []) : scan (r ++ v) ≠ [] := by
  cases eq : r ++ v with
  | nil => exact absurd (List.append_eq_nil_iff.mp eq).2 some
  | cons c x =>
    have next : next? (c :: x) = Option.some (first c x) := rfl
    rw [scan_eq next]
    exact List.cons_ne_nil _ _

instance (ts : List Token) : Decidable (IsInner ts) :=
  decidable_of_iff ((∀ t ∈ ts, t.kind ≠ .illegal) ∧ (∀ t ∈ ts, t.isWord ";" = false) ∧
      openAfter 0 ts = some 0)
    ⟨fun ⟨legal, single, balanced⟩ => ⟨legal, single, balanced⟩,
      fun h => ⟨h.legal, h.single, h.balanced⟩⟩

instance (s : List Char) : Decidable (Delimited s) :=
  decidable_of_iff (s.all (fun c => c.toNat ≠ 0) = true ∧
      (scan (s ++ [' '])).getLast?.any (fun t => t.kind = .blank) = true ∧
      IsInner ((scan (s ++ [' '])).filter isMeaningful))
    ⟨fun ⟨whole, ends, inner⟩ => ⟨isWhole_iff_all.mpr whole, ends, inner⟩,
      fun h => ⟨isWhole_iff_all.mp h.whole, h.ends, h.inner⟩⟩

/-- The rest of a piece, in front of two texts, behind a token that ends with the piece. -/
theorem reads_of_ends (s : List Char)
    (ends : (scan (s ++ [' '])).getLast?.any (fun t => t.kind = .blank) = true)
    (legal : ∀ t ∈ scan (s ++ [' ']), t.kind ≠ .illegal) :
    Reads s ((scan (s ++ [' '])).filter isMeaningful) := by
  induction length : s.length using Nat.strong_induction_on generalizing s with
  | _ n ih =>
    cases s with
    | nil => exact .nil
    | cons c r =>
      cases reach c r with
      | own t rest cut takes next =>
        have less : rest.length < n := by
          have pos : 0 < t.raw.length := List.length_pos_iff.mpr takes
          have lengths := congrArg List.length cut
          rw [List.length_append] at lengths
          omega
        have eq : scan (c :: r ++ [' ']) = t :: scan (rest ++ [' ']) :=
          scan_eq (next [' '] Reach.parts_space)
        have some := scan_append_ne_nil rest (List.cons_ne_nil ' ' [])
        rw [eq, List.getLast?_cons_of_ne_nil some] at ends
        rw [eq] at legal
        have later := ih rest.length less rest ends
          (fun t ht => legal t (List.mem_cons_of_mem _ ht)) rfl
        intro v hv
        obtain ⟨first, firstRead, found⟩ := scanned_of_next (next v hv)
        obtain ⟨second, secondRead, found'⟩ := later v hv
        refine ⟨first ++ second, ?_, ?_⟩
        · rw [eq, List.filter_append, firstRead, secondRead, ← List.filter_append]
          rfl
        · rw [found, found', List.append_assoc]
      | blank all =>
        intro v hv
        refine ⟨[], ?_, by rw [scanned_blanks all]; rfl⟩
        have more : (c :: (r ++ [' '])).all isBlankChar = true := by
          rw [← List.cons_append, List.all_append, all]
          rfl
        rw [List.cons_append, scan_blanks more]
        rfl
      | line next =>
        rw [scan_eq (next [' '] Reach.parts_space)] at ends
        cases ends
      | broken next =>
        obtain ⟨t, rest, first, illegal | ⟨comment, none⟩⟩ := next [' '] (Or.inl rfl)
        · rw [scan_eq first] at legal
          exact absurd illegal (legal t List.mem_cons_self)
        · rw [scan_eq first, none, scan_nil] at ends
          have kind : t.kind = .blank := by simpa using ends
          rw [comment] at kind
          cases kind

theorem Delimited.reads {s : List Char} (h : Delimited s) :
    Reads s ((scan (s ++ [' '])).filter isMeaningful) := by
  refine reads_of_ends s h.ends fun t ht illegal => ?_
  have meaningful : t.isMeaningful = true := by rw [isMeaningful, illegal]
  exact h.inner.legal t (List.mem_filter.mpr ⟨ht, meaningful⟩) illegal

end EntityEngine.Sql
