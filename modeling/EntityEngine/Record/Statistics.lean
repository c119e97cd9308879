import EntityEngine.Json.Text
import EntityEngine.Number.Numeral
import EntityEngine.Record.Basic
import EntityEngine.Text.Blank

/-!
Figures of the fields of a page of rows: counts, sums and bounds of numbers, and lengths and
distinct values of texts. Rows without a value of the kind do not count.
-/

namespace EntityEngine

open Number Text

inductive FieldStats where
  | numeric (count : Nat) (sum : Float) (average least greatest : Option Float)
  /-- Lengths are counted in characters. -/
  | text (count distinct : Nat) (shortest longest : Option Nat) (average : Option Float)
  deriving Repr, DecidableEq

namespace FieldStats

/-- The number that a value is or writes. -/
def number? : Json → Option Float
  | .integer n => some (ofInteger n)
  | .real x => some x
  | .text s => finite? (trim s)
  | _ => none

/-- The text that a value is or has. -/
def text? : Json → Option String
  | .text s => if s.isEmpty then none else some s
  | .integer n => some (Json.integer n).render
  | .real x => some (Json.real x).render
  | .bool b => some (Json.bool b).render
  | _ => none

def lesser (x y : Float) : Float := if y < x then y else x

def greater (x y : Float) : Float := if x < y then y else x

/-- The first of some numbers, combined with the others one by one. -/
def reduce (f : α → α → α) : List α → Option α
  | [] => none
  | x :: xs => some (xs.foldl f x)

def ofNumbers (xs : List Float) : FieldStats :=
  let sum := xs.foldl (· + ·) 0
  let average := if xs.isEmpty then none else some (sum / Float.ofNat xs.length)
  .numeric xs.length sum average (reduce lesser xs) (reduce greater xs)

def ofTexts (ss : List String) : FieldStats :=
  let lengths := ss.map String.length
  let total := lengths.foldl (· + ·) 0
  let average :=
    if ss.isEmpty then none else some (Float.ofNat total / Float.ofNat ss.length)
  .text ss.length ss.eraseDups.length (reduce min lengths) (reduce max lengths) average

/-- The figures of a field with some values; none for a field that is neither numeric nor
textual. -/
def ofValues? (type : FieldType) (values : List Json) : Option FieldStats :=
  if type.isNumeric then some (ofNumbers (values.filterMap number?))
  else if type.isTextual then some (ofTexts (values.filterMap text?))
  else none

def ofReal? : Option Float → Json
  | some x => .real x
  | none => .null

def toJson : FieldStats → Json
  | numeric count sum average least greatest => .object <| ValueMap.ofEntries [
      ("kind", .text "numeric"), ("count", .integer count), ("sum", .real sum),
      ("average", ofReal? average), ("min", ofReal? least), ("max", ofReal? greatest)]
  | text count distinct shortest longest average => .object <| ValueMap.ofEntries [
      ("kind", .text "text"), ("count", .integer count), ("distinct", .integer distinct),
      ("min_length", Json.ofNat? shortest), ("max_length", Json.ofNat? longest),
      ("average_length", ofReal? average)]

end FieldStats

/-- Figures under the names of fields; of two under one name, the later counts. -/
abbrev Stats := List (String × FieldStats)

namespace Stats

/-- The figures of the numeric and textual fields over some rows. -/
def aggregate (rows : List ValueMap) (fields : List Field) : Stats :=
  fields.filterMap fun f =>
    (FieldStats.ofValues? f.type (rows.filterMap fun row => row.get? f.name)).map (f.name, ·)

def toJson (s : Stats) : Json :=
  .object (ValueMap.ofEntries (s.map fun (name, figures) => (name, figures.toJson)))

end Stats

end EntityEngine
