import EntityEngine.Proofs.Query.Parameters

/-! The numbers of a page, as the parameters of a query give them. The page is counted in a word of
32 bits, and the count runs over at one place only: a page of one row, with as many rows skipped as
a word can say. -/

namespace EntityEngine

open Number Sql

namespace Number

theorem add32_ok {a b : Nat} (small : a + b ≤ maxNat32) : add32 a b = .ok (a + b) := if_pos small

theorem add32_over {a b : Nat} (large : maxNat32 < a + b) : add32 a b = .error .add :=
  if_neg (Nat.not_le_of_lt large)

theorem nat32?_le {s : String} {n : Nat} (read : nat32? s = some n) : n ≤ maxNat32 := by
  simp only [nat32?, Option.ite_none_left_eq_some, Option.ite_none_right_eq_some,
    Option.some.injEq] at read
  obtain ⟨-, small, rfl⟩ := read
  exact small

end Number

namespace QueryOptions

theorem natOf?_le {params : Params} {key : String} {n : Nat} (given : natOf? params key = some n) :
    n ≤ maxNat32 := by
  obtain ⟨s, -, read⟩ := Option.bind_eq_some_iff.mp given
  exact nat32?_le read

/-- A page has a row, whatever the parameters, and no more than a word can say. -/
theorem topOf_bounds (params : Params) : 0 < topOf params ∧ topOf params ≤ maxNat32 := by
  have usual : 0 < defaultTop ∧ defaultTop ≤ maxNat32 := by decide
  unfold topOf
  cases given : natOf? params "$top" with
  | none => exact usual
  | some n =>
    by_cases some : 0 < n
    · simp only [if_pos some]
      exact ⟨some, natOf?_le given⟩
    · simp only [if_neg some]
      exact usual

theorem skip_ofParams_le (params : Params) : (ofParams params).skip ≤ maxNat32 := by
  show (natOf? params "$skip").getD 0 ≤ maxNat32
  cases given : natOf? params "$skip" with
  | none => exact Nat.zero_le _
  | some n => exact natOf?_le given

/-- A page of one row, behind as many rows as a word can say. -/
def SkipsAll (o : QueryOptions) : Prop := o.top = 1 ∧ o.skip = maxNat32

instance (o : QueryOptions) : Decidable o.SkipsAll := inferInstanceAs (Decidable (_ ∧ _))

/-- The page of a query and the rows before it, both within a word of 32 bits: the page on which
the row after the skipped ones stands. -/
structure IsPage (o : QueryOptions) (page offset : Nat) : Prop where
  counted : o.page = .ok page
  started : o.offset = .ok offset
  page_eq : page = o.skip / o.top + 1
  offset_eq : offset = o.top * (o.skip / o.top)
  offset_le : offset ≤ o.skip
  lt_next : o.skip < offset + o.top
  page_le : page ≤ maxNat32
  offset_small : offset ≤ maxNat32

variable {o : QueryOptions}

/-- The count of pages leaves its word where one more than all of them is asked for. -/
theorem over_iff (some : 0 < o.top) (small : o.skip ≤ maxNat32) :
    maxNat32 < o.skip / o.top + 1 ↔ o.SkipsAll := by
  constructor
  · intro beyond
    have all : o.skip = maxNat32 := by
      have := Nat.div_le_self o.skip o.top
      omega
    refine ⟨?_, all⟩
    -- Pages of two rows or more leave at most half of the word to count.
    by_contra more
    have half : o.skip / o.top ≤ o.skip / 2 := Nat.div_le_div_left (by omega) (by decide)
    rw [all] at half beyond
    exact absurd (Nat.lt_of_lt_of_le beyond (Nat.succ_le_succ half)) (by decide)
  · rintro ⟨one, all⟩
    rw [one, all, Nat.div_one]
    exact Nat.lt_succ_self _

theorem isPage_of_le (some : 0 < o.top) (small : o.skip ≤ maxNat32)
    (fits : o.skip / o.top + 1 ≤ maxNat32) :
    o.IsPage (o.skip / o.top + 1) (o.top * (o.skip / o.top)) := by
  have counted : o.page = .ok (o.skip / o.top + 1) := by
    rw [page, Nat.max_eq_left some, add32_ok fits]
  have whole : o.top * (o.skip / o.top) ≤ o.skip := Nat.mul_div_le _ _
  have started : o.offset = .ok (o.top * (o.skip / o.top)) := by
    rw [(Query.offset_eq counted).1, Nat.add_sub_cancel, Nat.mul_comm]
  exact {
    counted, started
    page_eq := rfl
    offset_eq := rfl
    offset_le := whole
    lt_next := by
      have rest := Nat.mod_lt o.skip some
      have parts := Nat.div_add_mod o.skip o.top
      omega
    page_le := fits
    offset_small := Nat.le_trans whole small }

theorem page_over (some : 0 < o.top) (beyond : maxNat32 < o.skip / o.top + 1) :
    o.page = .error .add ∧ o.offset = .error .add := by
  have page : o.page = .error .add := by
    rw [QueryOptions.page, Nat.max_eq_left some, add32_over beyond]
  exact ⟨page, by rw [offset, page]; rfl⟩

end QueryOptions

namespace Query

/-- The selections of a query carry the rows of its page and the rows before it as they are. -/
theorem selections_ok {o : QueryOptions} {page offset : Nat} (h : o.IsPage page offset)
    (e : Entity) :
    (∃ s, overDocuments e o = .ok s ∧ s.limit = o.top ∧ s.offset = offset) ∧
      ∃ s, overTable e o = .ok s ∧ s.limit = o.top ∧ s.offset = offset := by
  have kept : boundedOffset offset = offset := boundedOffset_eq h.offset_small
  exact ⟨⟨_, by rw [overDocuments, h.started]; rfl, rfl, kept⟩,
    ⟨_, by rw [overTable, h.started]; rfl, rfl, kept⟩⟩

theorem selections_over {o : QueryOptions} (beyond : o.offset = .error .add) (e : Entity) :
    overDocuments e o = .error .add ∧ overTable e o = .error .add :=
  ⟨by rw [overDocuments, beyond]; rfl, by rw [overTable, beyond]; rfl⟩

end Query

/-- Whatever the parameters of a query, its pages have a row at least, and one of two things holds.
Its page and the rows before it are numbers of their words, as quotient and product of the two
parameters, and both of its selections are there and carry them; or the query asks for pages of one
row and skips as many as a word can say, and the count of its pages overflows, and with it both
selections. -/
theorem page_or_overflow (params : Params) (e : Entity) :
    let o := QueryOptions.ofParams params
    (0 < o.top ∧ o.top ≤ maxNat32) ∧
    if o.SkipsAll then
      (o.page = .error .add ∧ o.offset = .error .add) ∧
        Query.overDocuments e o = .error .add ∧ Query.overTable e o = .error .add
    else
      ∃ page offset, o.IsPage page offset ∧
        (∃ s, Query.overDocuments e o = .ok s ∧ s.limit = o.top ∧ s.offset = offset) ∧
        ∃ s, Query.overTable e o = .ok s ∧ s.limit = o.top ∧ s.offset = offset := by
  intro o
  have bounds : 0 < o.top ∧ o.top ≤ maxNat32 := QueryOptions.topOf_bounds params
  have small : o.skip ≤ maxNat32 := QueryOptions.skip_ofParams_le params
  have over_iff := QueryOptions.over_iff bounds.1 small
  refine ⟨bounds, ?_⟩
  split
  · rename_i all
    have beyond := QueryOptions.page_over bounds.1 (over_iff.mpr all)
    exact ⟨beyond, Query.selections_over beyond.2 e⟩
  · rename_i less
    have fits := Nat.le_of_not_lt (mt over_iff.mp less)
    have paged := QueryOptions.isPage_of_le bounds.1 small fits
    exact ⟨_, _, paged, Query.selections_ok paged e⟩

/-- Both sides of the limit: the last row that can be skipped, and one more. -/
example : (QueryOptions.ofParams [("$top", "1"), ("$skip", "4294967294")]).page = .ok maxNat32 ∧
    (QueryOptions.ofParams [("$top", "1"), ("$skip", "4294967295")]).page = .error .add := by
  decide +kernel

end EntityEngine
