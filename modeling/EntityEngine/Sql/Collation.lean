import EntityEngine.Text.Ascii
import EntityEngine.Text.Utf8

/-!
Orders of texts: by their bytes, by their bytes with ASCII capitals as small letters, or by their
bytes without the spaces at their ends.
-/

namespace EntityEngine.Sql

open Text

inductive Collation where
  | bytes
  | caseless
  | trimmed
  deriving Repr, DecidableEq, Inhabited

/-- An ASCII capital as its small letter; every other byte stays. -/
def foldByte (b : Nat) : Nat := if 65 ≤ b ∧ b ≤ 90 then b + 32 else b

/-- The order by the first bytes that differ in more than their case, as far as both texts go and
not past a byte 0. -/
def compareFolded : Bytes → Bytes → Ordering
  | a :: r, b :: s =>
    if foldByte a ≠ foldByte b then compare (foldByte a) (foldByte b)
    else if a = 0 then .eq
    else compareFolded r s
  | _, _ => .eq

/-- Bytes without the spaces at their end. -/
def withoutSpaces (bytes : Bytes) : Bytes := (bytes.reverse.dropWhile (· == 32)).reverse

namespace Collation

/-- The collation with a name, in capitals or small letters. -/
def ofName? (name : String) : Option Collation :=
  ([("BINARY", bytes), ("NOCASE", caseless), ("RTRIM", trimmed)].find? fun (s, _) =>
    sameFold s name).map Prod.snd

/-- The order of two texts, given by their bytes. -/
def compareBytes (c : Collation) (a b : Bytes) : Ordering :=
  match c with
  | bytes => compare a b
  | caseless => (compareFolded a b).then (compare a.length b.length)
  | trimmed => compare (withoutSpaces a) (withoutSpaces b)

end Collation

end EntityEngine.Sql
