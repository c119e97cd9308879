import EntityEngine.Engine.Records
import EntityEngine.Proofs.Engine.Ownership
import EntityEngine.Proofs.Query.PageNumbers
import EntityEngine.Proofs.Query.Pages
import EntityEngine.Proofs.Store.RowSearch

/-! The rows before a page of a list. Documents count them in a word of 64 bits, which ends the list
where it runs over; tables count them in a word of 32 bits, which stays at its largest number, and
start at the page on which that row stands. -/

namespace EntityEngine

open Number Sql Store

/-- The rows before a page of a list. Pages count from 1, and have a row at least. -/
def rowsBefore (page size : Nat) : Nat := (max page 1 - 1) * max size 1

theorem rowsBefore_max (page size : Nat) :
    rowsBefore (max page 1) (max size 1) = rowsBefore page size := by
  have twice : ∀ n : Nat, max (max n 1) 1 = max n 1 := fun n => by omega
  rw [rowsBefore, twice, twice, ← rowsBefore]

theorem Number.multiply64_natCast (a b : Nat) : multiply64 a b =
    if (a * b : Nat) ≤ maxInt64 then .ok ((a * b : Nat) : Int) else .error .multiply := by
  have nonneg : minInt64 ≤ (a * b : Nat) := by
    unfold minInt64
    omega
  rw [multiply64, ← Int.natCast_mul]
  simp only [inInt64, decide_eq_true nonneg, Bool.true_and, decide_eq_true_eq]

variable {g g' : Engine} {e : Entity} {appId : Int} {code : String} {page size : Nat}

/-! ### Documents -/

/-- The documents under a code. -/
def documentsUnder (appId : Int) (code : String) : List Condition := [
  .compare (.plain "app_id") .eq (.integer appId),
  .compare (.plain "entity_code") .eq (.text code), .kept]

theorem Store.Database.listRecords_eq (db : Database) :
    db.listRecords appId code page size =
      if rowsBefore page size ≤ maxInt64 then
        .ok ((slice (max size 1) (rowsBefore page size)
          (db.selectDocuments (documentsUnder appId code) Query.documentOrder)).map readBack)
      else .error (.overflow .multiply) := by
  have counted : multiply64 (max page 1 - 1 : Nat) (max size 1 : Nat) =
      if rowsBefore page size ≤ maxInt64 then .ok (rowsBefore page size : Int)
      else .error .multiply := multiply64_natCast _ _
  rw [Database.listRecords, counted]
  split <;> rfl

/-! ### Tables -/

/-- The rows before a page of a table's list are those before the page on which the last of them
stands that a word of 32 bits can count. They never run over. -/
theorem Engine.offset_pageOptions_eq (counted : page ≤ maxNat32) :
    (pageOptions (max page 1) (max size 1)).offset =
      .ok (max size 1 * (min (rowsBefore page size) maxNat32 / max size 1)) := by
  have some : 0 < max size 1 := Nat.lt_of_lt_of_le Nat.one_pos (Nat.le_max_right size 1)
  have small : min (rowsBefore page size) maxNat32 ≤ maxNat32 := Nat.min_le_right _ _
  have fits : min (rowsBefore page size) maxNat32 / max size 1 + 1 ≤ maxNat32 := by
    -- No page of one row has so many before it.
    by_contra beyond
    obtain ⟨one, all⟩ := (QueryOptions.over_iff (o := pageOptions (max page 1) (max size 1)) some
      small).mp (Nat.lt_of_not_le beyond)
    have one : max size 1 = 1 := one
    have all : min (rowsBefore page size) maxNat32 = maxNat32 := all
    have before : rowsBefore page size = max page 1 - 1 := by rw [rowsBefore, one, Nat.mul_one]
    have : 0 < maxNat32 := by decide
    omega
  exact (QueryOptions.isPage_of_le (o := pageOptions (max page 1) (max size 1)) some small
    fits).started

/-- They are the rows before the page exactly if the word can count these. -/
theorem roundedRows_eq_iff :
    max size 1 * (min (rowsBefore page size) maxNat32 / max size 1) = rowsBefore page size ↔
      rowsBefore page size ≤ maxNat32 := by
  have some : 0 < max size 1 := Nat.lt_of_lt_of_le Nat.one_pos (Nat.le_max_right size 1)
  constructor
  · intro same
    have whole := Nat.mul_div_le (min (rowsBefore page size) maxNat32) (max size 1)
    omega
  · intro small
    rw [Nat.min_eq_left small, rowsBefore, Nat.mul_div_cancel _ some, Nat.mul_comm]

/-! ### Both kinds of storage -/

theorem Engine.resolve_database (known : g.resolve appId code = .ok (e, g')) :
    g'.database = g.database := by
  unfold Engine.resolve at known
  split at known
  · cases known
    rfl
  · split at known
    · cases known
      rfl
    · cases known

theorem Engine.listRecords_unmade (known : g.resolve appId code = .ok (e, g'))
    (unmade : e.tableCreated = false) : (g.listRecords appId code page size).1 =
      if rowsBefore page size ≤ maxInt64 then
        .ok ((slice (max size 1) (rowsBefore page size)
          (g.database.selectDocuments (documentsUnder appId code) Query.documentOrder)).map
            fun r => .document (readBack r))
      else .error (.overflow .multiply) := by
  have twice : max (max size 1) 1 = max size 1 := by omega
  have listed : g.database.listRecords appId code (max page 1) (max size 1) = _ :=
    Database.listRecords_eq g.database
  rw [rowsBefore_max, twice] at listed
  simp only [listRecords, known, unmade, Bool.false_eq_true, if_false, resolve_database known,
    listed]
  split
  · exact congrArg Except.ok List.map_map
  · rfl

theorem Engine.listRecords_made (known : g.resolve appId code = .ok (e, g'))
    (created : e.tableCreated = true) {offset : Nat}
    (paged : (pageOptions (max page 1) (max size 1)).offset = .ok offset)
    (small : offset ≤ maxNat32) {t : Table} (there : g.database.needTable e.table = .ok t) :
    (g.listRecords appId code page size).1 =
      .ok ((slice (max size 1) offset (t.select e.columns [] (Query.tableOrder e.layout))).map
        fun row => .row (t.shown e row)) := by
  have queried := Database.queryRows_newest rfl paged small there rfl
  simp only [listRecords, known, created, if_true, resolve_database known, queried]
  exact congrArg Except.ok List.map_map

/-- Every page of a list, whatever its number and its size in words of 32 bits. From documents it
starts behind exactly the rows before it, if a word of 64 bits can count them, and else the count
overflows. From a table it never overflows, and starts behind the rows before it exactly if a word
of 32 bits can count them; else it is the page on which the row stands that this word counts last. -/
theorem list_starts (known : g.resolve appId code = .ok (e, g')) (counted : page ≤ maxNat32) :
    let limit := max size 1
    let before := rowsBefore page size
    (e.tableCreated = false → (g.listRecords appId code page size).1 =
      if before ≤ maxInt64 then
        .ok ((slice limit before
          (g.database.selectDocuments (documentsUnder appId code) Query.documentOrder)).map
            fun r => .document (readBack r))
      else .error (.overflow .multiply)) ∧
    ∃ offset, (Engine.pageOptions (max page 1) limit).offset = .ok offset ∧
      offset = limit * (min before maxNat32 / limit) ∧ (offset = before ↔ before ≤ maxNat32) ∧
      (e.tableCreated = true → ∀ t, g.database.needTable e.table = .ok t →
        (g.listRecords appId code page size).1 =
          .ok ((slice limit offset (t.select e.columns [] (Query.tableOrder e.layout))).map
            fun row => .row (t.shown e row))) := by
  intro limit before
  have paged : (Engine.pageOptions (max page 1) limit).offset = .ok _ :=
    Engine.offset_pageOptions_eq counted
  have small : limit * (min before maxNat32 / limit) ≤ maxNat32 :=
    Nat.le_trans (Nat.mul_div_le _ _) (Nat.min_le_right _ _)
  exact ⟨Engine.listRecords_unmade known, _, paged, rfl, roundedRows_eq_iff,
    fun created _ there => Engine.listRecords_made known created paged small there⟩

/-- The last page of the largest size is behind more rows than 64 bits can count. -/
theorem list_starts_last : ∃ e g', notes.resolve 1 "note" = .ok (e, g') ∧
    e.tableCreated = false ∧
      (notes.listRecords 1 "note" maxNat32 maxNat32).1 = .error (.overflow .multiply) := by
  have unmade : ((notes.resolve 1 "note").toOption.any fun p => !p.1.tableCreated) = true := by
    decide +kernel
  cases known : notes.resolve 1 "note" with
  | error f =>
    rw [known] at unmade
    cases unmade
  | ok p =>
    rw [known] at unmade
    have unmade : p.1.tableCreated = false := by simpa [Except.toOption] using unmade
    refine ⟨p.1, p.2, rfl, unmade, ?_⟩
    rw [(list_starts known (Nat.le_refl maxNat32)).1 unmade, if_neg (by decide)]

end EntityEngine
