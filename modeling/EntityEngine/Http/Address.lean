import EntityEngine.Text.Ascii
import EntityEngine.Text.Utf8

/-!
The address of a request: a path and a query, both written with percent signs for bytes that have
another meaning there. A part of a path has to be text; in a query, bytes that are none count as
U+FFFD.
-/

namespace EntityEngine.Http

open Text

/-- An address as it is written. -/
structure Address where
  path : String
  query : String
  deriving Repr, DecidableEq

namespace Address

/-- The characters of a scheme's name. -/
def isSchemeChar (c : Char) : Bool := c.isAlphanum || c = '+' || c = '-' || c = '.'

/-- The part of an address behind its scheme and its host, if it starts with those. -/
def relative (s : List Char) : List Char :=
  match s.dropWhile isSchemeChar with
  | ':' :: '/' :: '/' :: r => r.dropWhile fun c => c ≠ '/' ∧ c ≠ '?' ∧ c ≠ '#'
  | _ => s

/-- The path and the query of an address; what follows a `#` belongs to neither. An address may
name a scheme and a host before them, which make no difference. -/
def ofText (s : String) : Address :=
  let cs := (relative s.toList).takeWhile (· ≠ '#')
  ⟨String.ofList (cs.takeWhile (· ≠ '?')), String.ofList ((cs.dropWhile (· ≠ '?')).drop 1)⟩

/-- The parts of a path that starts with a slash. -/
def segments? (a : Address) : Option (List String) :=
  match split '/' a.path with
  | "" :: segments => some segments
  | _ => none

end Address

/-- The text that a part of a path stands for. -/
def pathText? (segment : String) : Option String :=
  (ofBytes? (percentDecode (textBytes segment.toList))).map String.ofList

/-- The text that a name or a value of a query stands for; a plus stands for a blank. -/
def queryText (s : List Char) : String :=
  let bytes := textBytes (s.map fun c => if c = '+' then ' ' else c)
  String.ofList (ofBytesLossy (percentDecode bytes))

/-- The name and the value of a part of a query. A part without `=` has an empty value. -/
def queryPair (part : String) : String × String :=
  let cs := part.toList
  (queryText (cs.takeWhile (· ≠ '=')), queryText ((cs.dropWhile (· ≠ '=')).drop 1))

/-- The names and values that a query gives, in order. -/
def Address.pairs (a : Address) : List (String × String) :=
  ((split '&' a.query).filter fun part => !part.isEmpty).map queryPair

/-- The pairs with the last value of each name alone. -/
def lastValues (pairs : List (String × String)) : List (String × String) :=
  pairs.foldl (fun kept p => kept.filter (fun q => q.1 ≠ p.1) ++ [p]) []

end EntityEngine.Http
