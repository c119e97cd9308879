import EntityEngine.Time.Calendar
import EntityEngine.Number.Numeral
import EntityEngine.Text.Blank

/-!
RFC 3339 text of instants. Stored text has a fixed width, so that its order is the order in time;
shown text has as many digits of the second as are needed. Reading is strict for stored columns
and lenient about blanks for input.
-/

namespace EntityEngine.Time

open Number Text

/-- A number padded with zeros at its front. -/
def padded (width n : Nat) : List Char :=
  let digits := Nat.toDigits 10 n
  List.replicate (width - digits.length) '0' ++ digits

/-- Four digits for the years 0 to 9999, and a sign with at least four digits for others. -/
def yearChars (year : Int) : List Char :=
  if 0 ≤ year ∧ year ≤ 9999 then padded 4 year.toNat
  else (if year < 0 then '-' else '+') :: padded 4 year.natAbs

def dateChars (d : Date) : List Char :=
  yearChars d.year ++ '-' :: (padded 2 d.month ++ '-' :: padded 2 d.day)

/-- Hours, minutes and seconds; a leap second is the second 60. -/
def clockChars (t : Instant) : List Char :=
  let s := t.secondOfDay
  let second := if 1000000000 ≤ t.nano then s % 60 + 1 else s % 60
  padded 2 (s / 3600) ++ ':' :: (padded 2 (s / 60 % 60) ++ ':' :: padded 2 second)

def nanoOfSecond (t : Instant) : Nat :=
  if 1000000000 ≤ t.nano then t.nano - 1000000000 else t.nano

/-- The text of an instant as it is stored: six digits of the second. -/
def Instant.stored (t : Instant) : String :=
  let micros := padded 6 (nanoOfSecond t / 1000)
  String.ofList (dateChars t.date ++ 'T' :: (clockChars t ++ '.' :: (micros ++ ['Z'])))

/-- The digits of the second that are shown: none, three, six or nine. -/
def fractionChars (nano : Nat) : List Char :=
  if nano = 0 then []
  else if nano % 1000000 = 0 then '.' :: padded 3 (nano / 1000000)
  else if nano % 1000 = 0 then '.' :: padded 6 (nano / 1000)
  else '.' :: padded 9 nano

/-- The text of an instant as it is shown. -/
def Instant.shown (t : Instant) : String :=
  String.ofList
    (dateChars t.date ++ 'T' :: (clockChars t ++ (fractionChars (nanoOfSecond t) ++ ['Z'])))

/-- A date and a clock with a blank between them. -/
def Instant.plain (t : Instant) : String :=
  String.ofList (dateChars t.date ++ ' ' :: clockChars t)

/-- At least `low` and at most `high` digits. -/
def digits? (low high : Nat) (s : List Char) : Option (Nat × List Char) :=
  let ds := (s.take high).takeWhile isDigit
  if ds.length < low then none else some (ofDigits ds, s.drop ds.length)

def char? (c : Char) : List Char → Option (List Char)
  | d :: r => if d = c then some r else none
  | [] => none

/-- A digit sequence after a point as nanoseconds; digits past the ninth are left out. -/
def nano? (s : List Char) : Option (Nat × List Char) := do
  let (n, r) ← digits? 1 9 s
  let width := s.length - r.length
  some (n * Nat.pow 10 (9 - width), r.dropWhile isDigit)

def optionalNano : List Char → Option (Nat × List Char)
  | '.' :: r => nano? r
  | r => some (0, r)

/-- The offset from universal time in seconds: `Z`, or a sign, two digits of hours, a separator
and two digits of minutes. -/
def offset? (separator : List Char → Option (List Char)) : List Char → Option (Int × List Char)
  | [] => none
  | c :: r =>
    if c = 'Z' ∨ c = 'z' then some (0, r)
    else do
      let negative ← if c = '+' then some false
        else if c = '-' ∨ c = '−' then some true else none
      let (hours, r) ← digits? 2 2 r
      let r ← separator r
      let (minutes, r) ← digits? 2 2 r
      if 60 ≤ minutes then none
      else
        let seconds : Int := hours * 3600 + minutes * 60
        some (if negative then -seconds else seconds, r)

/-- The parts of a date and time in a zone. -/
structure Reading where
  date : Date
  hour : Nat
  minute : Nat
  second : Nat
  nano : Nat
  offset : Int
  deriving Repr, DecidableEq

/-- The first and the last year that dates reach. -/
def firstYear : Int := -262143

def lastYear : Int := 262142

def isReachedYear (year : Int) : Bool := firstYear ≤ year && year ≤ lastYear

/-- The instant of a reading whose parts are all in their ranges. A second 60 is a leap second. The
date has to be reached both where the reading is told and in universal time. -/
def Reading.instant? (p : Reading) (offsetBound : Int) : Option Instant :=
  if p.date.isValid && p.hour < 24 && p.minute < 60 && p.second ≤ 60 &&
      isReachedYear p.date.year && -offsetBound ≤ p.offset && p.offset ≤ offsetBound then
    let leap := p.second == 60
    let t := Instant.ofDate p.date (p.hour * 3600 + p.minute * 60 + (if leap then 59 else p.second))
      (if leap then p.nano + 1000000000 else p.nano)
    let universal := { t with second := t.second - p.offset }
    if isReachedYear universal.date.year then some universal else none
  else none

/-- The mark between a date and a time. -/
def separator? : List Char → Option (List Char)
  | c :: r => if c = 'T' ∨ c = 't' ∨ c = ' ' then some r else none
  | [] => none

/-- Reads stored text: fixed widths and no blanks other than one before the time. -/
def Instant.parse? (s : String) : Option Instant := do
  let (year, r) ← digits? 4 4 s.toList
  let r ← char? '-' r
  let (month, r) ← digits? 2 2 r
  let r ← char? '-' r
  let (day, r) ← digits? 2 2 r
  let r ← separator? r
  let (hour, r) ← digits? 2 2 r
  let r ← char? ':' r
  let (minute, r) ← digits? 2 2 r
  let r ← char? ':' r
  let (second, r) ← digits? 2 2 r
  let (nano, r) ← optionalNano r
  let (offset, r) ← offset? (char? ':') r
  if r.isEmpty then
    Reading.instant? ⟨⟨year, month, day⟩, hour, minute, second, nano, offset⟩ (86399 / 60 * 60)
  else none

/-- A year of up to four digits, or of any length after a sign. -/
def lenientYear? (s : List Char) : Option (Int × List Char) :=
  match trimLeft s with
  | '-' :: r => (digits? 1 r.length r).map fun (n, r) => (-(n : Int), r)
  | '+' :: r => (digits? 1 r.length r).map fun (n, r) => ((n : Int), r)
  | r => (digits? 1 4 r).map fun (n, r) => ((n : Int), r)

def lenientPart? (s : List Char) : Option (Nat × List Char) := digits? 1 2 (trimLeft s)

def colonOrBlank (s : List Char) : Option (List Char) :=
  some (s.dropWhile fun c => c = ':' || isBlank c)

/-- The offset of input, which may also be the word `UTC`. -/
def lenientOffset? (s : List Char) : Option (Int × List Char) :=
  match trimLeft s with
  | a :: b :: c :: r =>
    if [a, b, c].map Char.toUpper = ['U', 'T', 'C'] then some (0, r)
    else offset? colonOrBlank (a :: b :: c :: r)
  | r => offset? colonOrBlank r

/-- Reads input text: blanks are allowed around the parts, and parts may be short. -/
def Instant.parseLenient? (s : String) : Option Instant := do
  let (year, r) ← lenientYear? s.toList
  let r ← char? '-' (trimLeft r)
  let (month, r) ← lenientPart? r
  let r ← char? '-' (trimLeft r)
  let (day, r) ← lenientPart? r
  let r ← separator? r
  let (hour, r) ← lenientPart? r
  let r ← char? ':' (trimLeft r)
  let (minute, r) ← lenientPart? r
  let r ← char? ':' (trimLeft r)
  let (second, r) ← lenientPart? r
  let (nano, r) ← optionalNano r
  let (offset, r) ← lenientOffset? r
  if (trimLeft r).isEmpty then
    Reading.instant? ⟨⟨year, month, day⟩, hour, minute, second, nano, offset⟩ 86399
  else none

end EntityEngine.Time
