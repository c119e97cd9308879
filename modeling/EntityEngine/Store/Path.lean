import EntityEngine.Store.Estimate
import EntityEngine.Store.Table

/-!
The way by which a search goes through the rows of a table: in the order of their numbers, or in
that of an index. Of the ways that are possible the one thought to cost least is taken, the cost of
sorting the rows that it meets included. Rows that no term of an order tells apart stay in the order
in which they are met.
-/

namespace EntityEngine.Store

open Sql

/-- What a condition or an order looks at: a column or the number of the row. -/
inductive Target where
  | column (place : Nat)
  | number
  deriving Repr, DecidableEq

/-- How a condition narrows a search. -/
inductive Narrowing where
  /-- To one value. -/
  | equal
  /-- To one side of a value. -/
  | bounded
  /-- Only by looking at all rows. -/
  | looked
  deriving Repr, DecidableEq

/-- What a search looks for. -/
structure Search where
  /-- The columns whose values are needed. -/
  used : List Target
  /-- What the conditions look at; none if that is no part of the row. -/
  conditions : List (Option Target × Narrowing)
  order : List (Option Target × Direction)
  /-- How many columns are shown. -/
  shown : Nat
  deriving Repr, DecidableEq

/-- A column of an index as searches see it. -/
structure IndexPart where
  target : Target
  isDescending : Bool
  /-- Whether values are in the order in which conditions compare them. -/
  isInOrder : Bool
  deriving Repr, DecidableEq

/-- A way through the rows. -/
structure Path where
  /-- The index that is followed; none for the order of the numbers. -/
  index : Option Index := none
  parts : List IndexPart := []
  /-- How many columns of the index are narrowed to one value. -/
  fixed : Nat := 0
  /-- The places of the conditions that the index answers. -/
  answered : List Nat := []
  /-- Ways of different groups are not weighed against each other before the order is looked at. -/
  group : Nat := 0
  /-- All columns that are needed can be read from the index. -/
  isCovering : Bool := false
  /-- At most one row is met. -/
  isSingle : Bool := false
  cost : Estimate := 0
  /-- How many rows are met. -/
  rows : Estimate := 0
  deriving Repr, DecidableEq

namespace Table

/-- What a name looks at. -/
def target? (t : Table) (name : String) : Option Target :=
  match t.resolve? name with
  | some (.column i) => if t.isNumberColumn name then some .number else some (.column i)
  | some .number => some .number
  | none => none

/-- The parts of an index. -/
def parts (t : Table) (x : Index) : List IndexPart :=
  x.columns.filterMap fun k => (t.target? k.name).map fun target =>
    let collation := ((t.column? k.name).map Column.collation).getD .bytes
    { target, isDescending := k.isDescending, isInOrder := k.collation = collation }

/-- The number of rows that a table is thought to have. -/
def rowEstimate : Estimate := 200

/-- The room of a row. -/
def rowRoom (t : Table) : Estimate :=
  let columns := (t.columns.map Column.width).foldl (· + ·) 0
  .ofNat (4 * (columns + if t.numberColumn.isSome then 0 else 1))

/-- The room of an entry of an index. -/
def entryRoom (t : Table) (x : Index) : Estimate :=
  let width (k : KeyColumn) : Nat := ((t.column? k.name).map Column.width).getD 1
  .ofNat (4 * ((x.columns.map width).foldl (· + ·) 0 + 1))

/-- How many rows share the first columns of an index. -/
def sharing (x : Index) (columns : Nat) : Estimate :=
  if columns = 0 then rowEstimate
  else if x.isUnique && columns = x.columns.length then 0
  else ([33, 32, 30, 28, 27][columns - 1]?).getD 23

/-- Whether values under an index are never null. -/
def isNeverNull (t : Table) (x : Index) : Bool :=
  x.columns.all fun k =>
    t.isNumberColumn k.name || (t.column? k.name).any fun c => c.notNull.isSome

/-- The columns that a search needs; one that follows from others may need all. -/
def neededColumns (t : Table) (s : Search) : List Nat :=
  let places := s.used.filterMap fun target =>
    match target with
    | .column i => some i
    | .number => none
  if places.any fun i => (t.columns[i]?).any fun c => c.derivation.isSome then
    List.range t.columns.length
  else places

/-- Whether all columns that a search needs can be read from an index. -/
def covers (t : Table) (s : Search) (x : Index) : Bool :=
  let isKept (i : Nat) : Bool :=
    (t.columns[i]?).all fun c => c.derivation.all Derivation.isStored
  (t.neededColumns s).all fun i =>
    (t.columns[i]?).any (fun c => t.isNumberColumn c.name) ||
      isKept i && x.columns.any fun k => t.place? k.name = some i

end Table

namespace Path

/-! ### Weighing ways -/

/-- The rows that a way meets once the conditions are looked at that its index does not answer. -/
def narrowed (p : Path) (s : Search) : Path :=
  let others := s.conditions.zipIdx.filter fun ((target, _), i) =>
    target.isSome && !p.answered.contains i
  let reduction := if others.any fun ((_, n), _) => n = .equal then 20 else 0
  { p with rows := min (p.rows - others.length) (Table.rowEstimate - reduction) }

/-- Whether one way answers some of the conditions of another and is not dearer. -/
def isWithin (p q : Path) : Bool :=
  p.answered.length < q.answered.length && (p.cost ≤ q.cost || p.rows ≤ q.rows) &&
    p.answered.all q.answered.contains && (!p.isCovering || q.isCovering)

/-- A way with costs that agree with those of others: who answers more conditions does not cost
more. -/
def adjusted (q : Path) (others : List Path) : Path :=
  others.foldl (fun q p =>
    if p.index.isNone || q.index.isNone then q
    else if p.isWithin q then { q with cost := min p.cost q.cost, rows := min (p.rows - 1) q.rows }
    else if q.isWithin p then { q with cost := max p.cost q.cost, rows := max (p.rows + 1) q.rows }
    else q) q

/-- Whether a way makes another of its group needless. -/
def replaces (p q : Path) : Bool := p.group == q.group && p.cost ≤ q.cost && p.rows ≤ q.rows

/-- Some ways without those that a new one makes needless, up to one that makes it needless. -/
def pruned (q : Path) : List Path → List Path
  | [] => []
  | p :: ps =>
    if p.replaces q then p :: ps
    else if q.replaces p then pruned q ps
    else p :: pruned q ps

/-- Some ways with one more, unless it is needless. -/
def withPath (q : Path) : List Path → List Path
  | [] => [q]
  | p :: ps =>
    if p.replaces q then p :: ps
    else if q.replaces p then q :: pruned q ps
    else p :: withPath q ps

/-- Some ways with one more, whose cost is made to agree with theirs. -/
def add (ps : List Path) (q : Path) : List Path := withPath (q.adjusted ps) ps

/-! ### Orders -/

/-- The state in which the terms of an order are compared with an index. -/
structure OrderReading where
  /-- The places of the terms that are met. -/
  met : List Nat
  /-- Whether rows are met from the end, once that is known. -/
  isReversed : Option Bool := none
  /-- Whether no two rows agree so far. -/
  isDistinct : Bool
  deriving Repr, DecidableEq

/-- One more part of an index compared with the first term of an order that is not met yet; none
if they do not agree. -/
def OrderReading.meet? (r : OrderReading) (s : Search) (part : IndexPart) :
    Option OrderReading := do
  let ((target, direction), i) ← s.order.zipIdx.find? fun (_, i) => !r.met.contains i
  let isReversed := (direction == .descending) != part.isDescending
  if target == some part.target && part.isInOrder &&
      r.isReversed.all (fun known => known == isReversed) then
    return { r with
      met := r.met ++ [i]
      isReversed := some isReversed
      isDistinct := r.isDistinct || part.target == .number }
  else none

/-- The terms of an order that the parts of an index meet one after the other, and behind them the
number of the row. -/
def readOrder (t : Table) (s : Search) (hasIndex : Bool) (r : OrderReading) :
    List IndexPart → OrderReading
  | [] =>
    let number : IndexPart := { target := .number, isDescending := false, isInOrder := true }
    (r.meet? s number).getD { r with isDistinct := hasIndex && r.isDistinct }
  | part :: parts =>
    let isNullable : Bool := match part.target with
      | .column i => (t.columns[i]?).any fun c => c.notNull.isNone
      | .number => false
    let r := if isNullable then { r with isDistinct := false } else r
    match r.meet? s part with
    | some r => if part.target = .number then r else readOrder t s hasIndex r parts
    | none => { r with isDistinct := false }

/-- How many terms of an order are met by the rows as a way meets them, and whether it has to be
gone from its end. -/
def metTerms (p : Path) (t : Table) (s : Search) : Nat × Bool :=
  let n := s.order.length
  let fixed := s.conditions.filterMap fun (target, kind) => if kind = .equal then target else none
  let start := (s.order.zipIdx.filter fun ((target, _), _) =>
    target.any fun target => fixed.contains target).map Prod.snd
  if start.length = n then (n, false)
  else
    let reading : OrderReading :=
      if p.isSingle then { met := start, isDistinct := true }
      else
        readOrder t s p.index.isSome { met := start, isDistinct := p.index.all Index.isUnique }
          (p.parts.drop p.fixed)
    let reversed := reading.isReversed.getD false
    let isMet (i : Nat) : Bool := reading.met.contains i
    if reading.isDistinct || (List.range n).all isMet then (n, reversed)
    else ((List.range n).takeWhile isMet |>.length, reversed)

/-- The cost of sorting some rows by terms of which the first ones are met. -/
def sortingCost (rows : Estimate) (shown terms met : Nat) : Estimate :=
  rows + .ofNat ((shown + 59) / 30) +
    (if met = 0 then 0 else Estimate.ofNat ((terms - met) * 100 / terms) - 66) + rows.log

/-- A way with its whole cost, sorting included, and whether it is gone from its end. -/
structure Weighed where
  path : Path
  isReversed : Bool
  cost : Estimate
  /-- The cost without sorting. -/
  unsorted : Estimate
  deriving Repr, DecidableEq

/-- The whole cost of a way, where so many rows are to be sorted; none if there is no order. -/
def weighed (p : Path) (t : Table) (s : Search) (sorted : Option Estimate) : Weighed :=
  let cost := Estimate.plus (Estimate.plus 0 p.cost) 0
  match sorted with
  | some rows =>
    let (met, isReversed) := p.metTerms t s
    if met < s.order.length then
      ⟨p, isReversed, Estimate.plus cost (sortingCost rows s.shown s.order.length met) + 3, cost⟩
    else ⟨p, isReversed, cost, cost - 2⟩
  | none => ⟨p, false, cost, cost - 2⟩

/-- Whether one way is better than another. -/
def Weighed.isBetter (p q : Weighed) : Bool :=
  p.cost < q.cost || (p.cost == q.cost && (p.path.rows < q.path.rows ||
    (p.path.rows == q.path.rows && p.unsorted < q.unsorted)))

/-- The best of some ways; of equals, the first. -/
def best? (ps : List Weighed) : Option Weighed :=
  ps.foldl (fun best p =>
    match best with
    | some q => if p.isBetter q then some p else some q
    | none => some p) none

end Path

namespace Table

/-! ### The ways through a table -/

/-- The cost of reading a row by its number rather than an entry of an index. -/
def entryCost (t : Table) (x : Index) : Estimate := 1 + 15 * t.entryRoom x / t.rowRoom

/-- The ways that use a condition on the columns of an index from some place on. -/
def narrowedPaths (t : Table) (s : Search) (x : Index) :
    List IndexPart → Path → List Path → List Path
  | [], _, ps => ps
  | part :: parts, p, ps =>
    s.conditions.zipIdx.foldl (fun ps ((target, kind), i) =>
      if target != some part.target || !part.isInOrder || kind = .looked then ps
      else
        let isEqual : Bool := kind = .equal
        let fixed := p.fixed + if isEqual then 1 else 0
        let rows :=
          if isEqual then p.rows + sharing x fixed - sharing x p.fixed
          else min (max (p.rows - 20) 10) (p.rows - 1)
        let reading := Estimate.plus (Estimate.log rowEstimate) (rows + t.entryCost x)
        let q := { p with
          fixed
          answered := p.answered ++ [i]
          isSingle := isEqual && p.fixed + 1 == x.columns.length &&
            ((x.isUnique && t.isNeverNull x) || (x.isUnique && x.columns.length == 1))
          rows
          cost := if p.isCovering then reading else Estimate.plus reading (rows + 16) }
        let ps := Path.add ps (q.narrowed s)
        if isEqual then t.narrowedPaths s x parts q ps else ps) ps

/-- Whether an order looks at the number or at a column of an index. -/
def helpsOrder (s : Search) (parts : List IndexPart) : Bool :=
  s.order.any fun (target, _) =>
    target == some .number ||
      target.any fun target => parts.any fun part => part.target == target

/-- Some ways with those by the number of the row. -/
def numberPaths (s : Search) (ps : List Path) : List Path :=
  let group := if helpsOrder s [] then 1 else 0
  let all : Path := { group, cost := rowEstimate + 16, rows := rowEstimate }
  let ps := Path.add ps (all.narrowed s)
  s.conditions.zipIdx.foldl (fun ps ((target, kind), i) =>
    if target != some .number || kind != .bounded then ps
    else
      let rows : Estimate := min (max (rowEstimate - 20) 10) (rowEstimate - 1)
      let p : Path := { all with
        answered := [i]
        rows
        cost := Estimate.plus (Estimate.log rowEstimate) (rows + 16) }
      Path.add ps (p.narrowed s)) ps

/-- How many rows are looked up in the table behind an index that is read through. -/
def lookups (s : Search) (parts : List IndexPart) : Estimate :=
  let isInside (target : Option Target) : Bool :=
    target.all fun target => target == .number || parts.any fun part => part.target == target
  (s.conditions.takeWhile fun (target, _) => isInside target).foldl
    (fun look (_, kind) => look - if kind = .equal then 20 else 1) (rowEstimate + 16)

/-- Some ways with those by an index, which is of a place among all. -/
def indexPaths (t : Table) (s : Search) (x : Index) (place : Nat) (ps : List Path) : List Path :=
  let parts := t.parts x
  let isOrdered := helpsOrder s parts
  let isCovering := t.covers s x
  let p : Path := {
    index := some x, parts, isCovering, group := if isOrdered then place else 0
    rows := rowEstimate }
  let reading := rowEstimate + t.entryCost x
  let all := { p with
    cost := if isCovering then reading else Estimate.plus reading (lookups s parts) }
  let ps :=
    if isOrdered || (isCovering && t.entryRoom x < t.rowRoom) then Path.add ps (all.narrowed s)
    else ps
  t.narrowedPaths s x parts p ps

/-- Whether a search can meet one row only. -/
def meetsOneRow (t : Table) (s : Search) : Bool :=
  let isFixed (target : Target) : Bool := s.conditions.contains (some target, .equal)
  isFixed .number || t.indexes.any fun x =>
    x.isUnique && x.conditions.isEmpty && (t.parts x).all fun part => part.isInOrder && isFixed part.target

/-- The way by which a search goes through the rows, and whether from its end. -/
def path (t : Table) (s : Search) : Path × Bool :=
  if t.meetsOneRow s then ({}, false)
  else
    let indexes := t.indexesInUse.zipIdx.filter fun (x, _) => x.conditions.isEmpty
    let ps := indexes.foldl (fun ps (x, i) => t.indexPaths s x (i + 2) ps) (numberPaths s [])
    let weigh (rows : Option Estimate) : Option Path.Weighed :=
      Path.best? (ps.map fun p => p.weighed t s rows)
    match weigh none with
    | none => ({}, false)
    | some first =>
      if s.order.isEmpty then (first.path, false)
      else
        match weigh (some (first.path.rows + 1)) with
        | some p => (p.path, p.isReversed)
        | none => ({}, false)

/-! ### Selecting rows -/

/-- The name in a statement that an operand is. -/
def operandName? : Operand → Option String
  | .column name | .plain name => some name
  | .member _ => none

/-- What an operand looks at. -/
def operandTarget? (t : Table) (o : Operand) : Option Target := (operandName? o).bind t.target?

/-- What a condition looks at, and how it narrows a search. -/
def narrowing (t : Table) : Condition → Option Target × Narrowing
  | .compare left op _ =>
    (t.operandTarget? left,
      if op = .eq then .equal else if op.isOrdering then .bounded else .looked)
  | .compareNumber left _ _ | .compareNumbers left _ _ | .like left _ =>
    (t.operandTarget? left, .looked)
  | .kept => (none, .looked)

/-- The search that a statement asks for, which shows some columns. -/
def searchFor (t : Table) (shown : List String) (conditions : List Condition)
    (order : List OrderTerm) : Search :=
  let conditions := conditions.map t.narrowing
  let order := order.map fun term => (t.operandTarget? term.operand, term.direction)
  { used := shown.filterMap t.target? ++ conditions.filterMap Prod.fst ++ order.filterMap Prod.fst
    conditions
    order
    shown := shown.length }

/-- All rows in the order in which a statement that shows some columns meets them. -/
def visited (t : Table) (shown : List String) (conditions : List Condition)
    (order : List OrderTerm) : List Row :=
  let (p, isReversed) := t.path (t.searchFor shown conditions order)
  let rows := match p.index with
    | none => t.rows
    | some x => t.inIndexOrder x
  if isReversed then rows.reverse else rows

/-- The rows that meet all conditions, in an order, for a statement that shows some columns. -/
def select (t : Table) (shown : List String) (conditions : List Condition)
    (order : List OrderTerm) : List Row :=
  sortRows order t.reader (matching conditions t.reader (t.visited shown conditions order))

end Table

end EntityEngine.Store
