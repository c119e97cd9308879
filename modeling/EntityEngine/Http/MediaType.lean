import EntityEngine.Number.Numeral
import EntityEngine.Text.Ascii

/-!
Media types: a type, a subtype with an optional suffix, and parameters. Blanks may stand before a
parameter and after a quoted value, nowhere else.
-/

namespace EntityEngine.Http

open Number Text

/-- The characters of names and of values without quotes. -/
def isTokenChar (c : Char) : Bool :=
  isDigit c || c.isAlpha || "!#$%&'*+-.^_`|~".toList.contains c

/-- The characters of quoted values. -/
def isQuotable (c : Char) : Bool := 31 < c.toNat && c.toNat ≠ 127

/-- How far the parameters of a media type are read. -/
inductive ParameterState where
  /-- Before a parameter. -/
  | before
  | name
  /-- After the `=`. -/
  | unvalued
  | value
  /-- After the opening quote of a value. -/
  | opened
  | quoted
  /-- After the closing quote. -/
  | closed
  deriving Repr, DecidableEq

namespace ParameterState

def next? : ParameterState → Char → Option ParameterState
  | before, c => if c = ' ' then some before else if isTokenChar c then some name else none
  | name, c => if c = '=' then some unvalued else if isTokenChar c then some name else none
  | unvalued, c => if c = '"' then some opened else if isTokenChar c then some value else none
  | value, c => if c = ';' then some before else if isTokenChar c then some value else none
  | opened, c => if isQuotable c then some quoted else none
  | quoted, c => if c = '"' then some closed else if isQuotable c then some quoted else none
  | closed, c => if c = ';' then some before else if c = ' ' then some closed else none

/-- The parameters may end here. -/
def isEnd : ParameterState → Bool
  | before | unvalued | value | closed => true
  | name | opened | quoted => false

end ParameterState

/-- Whether what follows the subtype is a list of parameters. -/
def areParameters : List Char → Bool
  | [] => true
  | ';' :: r => (r.foldlM ParameterState.next? .before).any ParameterState.isEnd
  | _ => false

/-- Whether a subtype is `json`, as its name or as its suffix after the last plus. -/
def isJsonSubtype (subtype : List Char) : Bool :=
  let parts := splitAt '+' subtype
  let suffix := parts.getLastD []
  let name := subtype.take (subtype.length - suffix.length - 1)
  let json := "json".toList
  if name.isEmpty then subtype == json else name == json || suffix == json

/-- Whether a header names JSON as the type of a body. -/
def isJsonType (header : String) : Bool :=
  let cs := header.toList.map Char.toLower
  let type := cs.takeWhile isTokenChar
  match cs.dropWhile isTokenChar with
  | '/' :: r =>
    type == "application".toList && isJsonSubtype (r.takeWhile isTokenChar) &&
      areParameters (r.dropWhile isTokenChar)
  | _ => false

end EntityEngine.Http
