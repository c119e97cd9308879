import EntityEngine.Sql.Fault
import EntityEngine.Sql.Function.Format
import EntityEngine.Sql.Setting

/-!
Dates and times. A moment is a count of milliseconds since noon of the 24th of November in the year
−4713, and is also known by its date, its clock or a bare number, as it was given or changed last.
Dates follow the Gregorian calendar, carried back before its start.
-/

namespace EntityEngine.Sql

open Number Text Time

/-- Milliseconds of a day. -/
def dayMilliseconds : Int := 86400000

/-- The start of the year 1970 in milliseconds. -/
def epochMilliseconds : Int := 210866760000000

/-- The last millisecond of the year 9999. -/
def lastMillisecond : Int := 464269060799999

structure Moment where
  milliseconds : Option Int := none
  /-- Year, month and day. -/
  date : Option (Int × Int × Int) := none
  /-- Hours, minutes and seconds. -/
  clock : Option (Int × Int × Float) := none
  /-- Minutes that local time is ahead, if it is. -/
  zone : Option Int := none
  /-- A number of which it is not yet known what it counts. -/
  number : Option Float := none
  hasZone : Bool := false
  showsMilliseconds : Bool := false
  deriving Repr, DecidableEq

namespace Moment

/-- The whole part of a double, as an integer. -/
def whole (x : Float) : Int := wholePart x

/-- The milliseconds of midnight of a date; the month is at least 1. -/
def dateMilliseconds (year month day : Int) : Int :=
  let (y, m) := if month ≤ 2 then (year - 1, month + 12) else (year, month)
  let a := Int.tdiv y 100
  let b := 2 - a + Int.tdiv a 4
  let days := Int.tdiv (36525 * (y + 4716)) 100 + Int.tdiv (306001 * (m + 1)) 10000 + day + b
  days * dayMilliseconds - 1524 * dayMilliseconds - 43200000

/-- The moment with its milliseconds known; none if they cannot be. -/
def withMilliseconds (t : Moment) : Option Moment :=
  if t.milliseconds.isSome then some t
  else
    let (y, m, d) := t.date.getD (2000, 1, 1)
    if y < -4713 ∨ 9999 < y ∨ t.number.isSome then none
    else
      let start := dateMilliseconds y m d
      match t.clock with
      | none => some { t with milliseconds := some start }
      | some (h, min, s) =>
        let n := start + h * 3600000 + min * 60000 + whole (s * 1000 + 0.5)
        match t.zone with
        | none => some { t with milliseconds := some n }
        | some z =>
          some { t with
            milliseconds := some (n - z * 60000), date := none, clock := none, zone := none }

def isInRange (n : Int) : Bool := 0 ≤ n && n ≤ lastMillisecond

/-- The date of a moment in milliseconds. -/
def dateOf (n : Int) : Int × Int × Int :=
  let z := Int.tdiv (n + 43200000) dayMilliseconds
  let a := whole ((ofInteger z - 1867216.25) / 36524.25)
  let a := z + 1 + a - Int.tdiv a 4
  let b := a + 1524
  let c := whole ((ofInteger b - 122.1) / 365.25)
  let d := Int.tdiv (36525 * (c % 32768)) 100
  let e := whole (ofInteger (b - d) / 30.6001)
  let x := whole (30.6001 * ofInteger e)
  let month := if e < 14 then e - 1 else e - 13
  (if 2 < month then c - 4716 else c - 4715, month, b - d - x)

/-- The moment with its date known. -/
def withDate (t : Moment) : Option Moment :=
  match t.date, t.milliseconds with
  | some _, _ => some t
  | none, none => some { t with date := some (2000, 1, 1) }
  | none, some n => if isInRange n then some { t with date := some (dateOf n) } else none

/-- The moment with its clock known. -/
def withClock (t : Moment) : Option Moment :=
  if t.clock.isSome then some t
  else
    t.withMilliseconds.map fun t =>
      let inDay := Int.tmod (t.milliseconds.getD 0 + 43200000) dayMilliseconds
      let minutes := Int.tdiv inDay 60000
      { t with
        number := none
        clock := some (Int.tdiv minutes 60, Int.tmod minutes 60,
          ofInteger (Int.tmod inDay 60000) / 1000) }

def withDateAndClock (t : Moment) : Option Moment := t.withDate.bind withClock

/-- Only the milliseconds of a moment, changed by some more. -/
def shifted (t : Moment) (n : Int) : Moment :=
  { t with
    milliseconds := t.milliseconds.map (· + n), date := none, clock := none, zone := none }

/-! ### Reading -/

/-- A number of exactly some digits within bounds. -/
def digits (width low high : Nat) (s : List Char) : Option (Int × List Char) :=
  let ds := s.take width
  let n := ofDigits ds
  if ds.length = width && ds.all isDigit && low ≤ n && n ≤ high then some (n, s.drop width)
  else none

def mark (c : Char) : List Char → Option (List Char)
  | d :: s => if c = d then some s else none
  | [] => none

/-- Three numbers with marks between them. -/
def dateDigits (width lowMonth lowDay : Nat) (s : List Char) :
    Option ((Int × Int × Int) × List Char) := do
  let (y, s) ← digits width 0 14712 s
  let (m, s) ← digits 2 lowMonth 12 (← mark '-' s)
  let (d, s) ← digits 2 lowDay 31 (← mark '-' s)
  return ((y, m, d), s)

/-- A zone at the end of a text, in minutes; none if there is something else. -/
def readZone (s : List Char) : Option (Option Int) :=
  match s.dropWhile isSpace with
  | [] => some none
  | c :: s =>
    let ends (s : List Char) (n : Int) : Option (Option Int) :=
      if (s.dropWhile isSpace).isEmpty then some (some n) else none
    if c = 'Z' ∨ c = 'z' then ends s 0
    else if c = '+' ∨ c = '-' then do
      let (h, s) ← digits 2 0 14 s
      let (m, s) ← digits 2 0 59 (← mark ':' s)
      ends s (if c = '-' then -(h * 60 + m) else h * 60 + m)
    else none

/-- The fraction that digits write. -/
def fractionOf (ds : List Char) : Float :=
  let (n, scale) := ds.foldl
    (fun (n, scale) c => (n * 10 + ofInteger c.toNat - 48, scale * 10)) ((0, 1) : Float × Float)
  n / scale

/-- A clock, and perhaps a zone, up to the end of a text. -/
def readClock (t : Moment) (s : List Char) : Option Moment := do
  let (h, s) ← digits 2 0 24 s
  let (m, s) ← digits 2 0 59 (← mark ':' s)
  let (second, s) ← match s with
    | ':' :: s => do
      let (n, s) ← digits 2 0 59 s
      match s with
      | '.' :: c :: s =>
        if isDigit c then
          let ds := c :: s.takeWhile isDigit
          pure (ofInteger n + fractionOf ds, s.dropWhile isDigit)
        else pure (ofInteger n, '.' :: c :: s)
      | s => pure (ofInteger n, s)
    | s => pure ((0 : Float), s)
  let zone ← readZone s
  return { t with
    milliseconds := none
    number := none
    clock := some (h, m, second)
    zone := zone.filter (· ≠ 0)
    hasZone := zone.isSome }

/-- A date, and perhaps a clock. -/
def readDate (s : List Char) : Option Moment := do
  let (negative, s) := match s with
    | '-' :: s => (true, s)
    | s => (false, s)
  let ((y, m, d), s) ← dateDigits 4 1 1 s
  let rest := s.dropWhile fun c => isSpace c || c == 'T'
  let t ← match readClock {} rest with
    | some t => some t
    | none => if rest.isEmpty then some {} else none
  let t : Moment := { t with milliseconds := none, date := some (if negative then -y else y, m, d) }
  if t.zone.isSome then t.withMilliseconds else some t

/-- A moment told by a number: a count of days if it is small enough. -/
def ofNumber (x : Float) : Moment where
  number := some x
  milliseconds :=
    if x >= 0 && x < 5373484.5 then some (whole (x * 86400000 + 0.5)) else none

/-- The present. -/
def ofInstant (now : Instant) : Moment where
  milliseconds := some (epochMilliseconds + now.second * 1000 + min 999 (now.nano / 1000000 : Nat))

/-- The number that a whole text is. -/
def numberOf (s : List Char) : Option Float :=
  match Numeral.scan (s.dropWhile isSpace) with
  | some (n, rest) => if rest.all isSpace then some n.countedDouble else none
  | none => none

/-- The use of the present time where it may not be used. -/
def forbidden (name : String) (setting : Setting) : Except Fault Unit :=
  let refuse (place : String) : Except Fault Unit :=
    .error (.other ("non-deterministic use of " ++ name ++ "() in " ++ place))
  match setting.purpose with
  | .default => .ok ()
  | .check => refuse "a CHECK constraint"
  | .generated => refuse "a generated column"
  | .index => refuse "an index"

/-- The present for a function. -/
def present (name : String) (setting : Setting) : Except Fault (Option Moment) := do
  forbidden name setting
  return some (ofInstant setting.now)

/-- The moment that a text tells. -/
def read (name : String) (setting : Setting) (s : List Char) : Except Fault (Option Moment) :=
  match (readDate s).orElse fun _ => readClock {} s with
  | some t => .ok (some t)
  | none =>
    let word := fold (String.ofList s)
    if word = "now" then present name setting
    else
      match numberOf s with
      | some x => .ok (some (ofNumber x))
      | none =>
        if word = "subsec" ∨ word = "subsecond" then do
          return (← present name setting).map fun t => { t with showsMilliseconds := true }
        else .ok none

/-! ### Changes -/

/-- Months brought back into the range of a year. -/
def carried (year month : Int) : Int × Int :=
  let x := if 0 < month then Int.tdiv (month - 1) 12 else Int.tdiv (month - 12) 12
  (year + x, month - 12 * x)

/-- A moment that was told by a number counted in seconds since 1970. -/
def ofSeconds (t : Moment) (x : Float) : Moment :=
  { t with
    milliseconds := some (whole (x * 1000 + 210866760000000 + 0.5))
    date := none
    clock := none
    zone := none
    number := none }

/-- Years, months and days added or taken away, and perhaps a clock. -/
def addDate (t : Moment) (s : List Char) (width : Nat) : Option Moment := do
  let negative := s.head? = some '-'
  let ((years, months, days), rest) ← dateDigits width 0 0 (s.drop 1)
  if 12 ≤ months ∨ 31 ≤ days then none
  else
    let t ← t.withDateAndClock
    let (y, m, d) := t.date.getD (2000, 1, 1)
    let (y, m) := if negative then carried (y - years) (m - months)
      else carried (y + years) (m + months)
    let t ← ({ t with milliseconds := none, date := some (y, m, d) } : Moment).withMilliseconds
    let days := if negative then -days else days
    let t := { t with
      milliseconds := t.milliseconds.map (· + days * dayMilliseconds), date := none, clock := none }
    match rest with
    | [] => some t
    | c :: rest =>
      if isSpace c then
        let clock ← (readClock {} rest).bind withMilliseconds
        let n := Int.tmod (clock.milliseconds.getD 0 - 43200000) dayMilliseconds
        t.withMilliseconds.map (·.shifted (if negative then -n else n))
      else none

/-- A clock added or taken away. -/
def addClock (t : Moment) (s : List Char) : Option Moment := do
  let digits := if s.head?.any isDigit then s else s.drop 1
  let clock ← (readClock {} digits).bind withMilliseconds
  let n := Int.tmod (clock.milliseconds.getD 0 - 43200000) dayMilliseconds
  t.withMilliseconds.map (·.shifted (if s.head? = some '-' then -n else n))

/-- Units of time: their names, a bound for their count, and how many seconds they have. -/
def unitsOfTime : List (String × Float × Float) := [
  ("second", 464270000000000, 1), ("minute", 7737900000000, 60), ("hour", 128970000000, 3600),
  ("day", 5373485, 86400), ("month", 176546, 2592000), ("year", 14713, 31536000)]

/-- A number of units added. -/
def addUnits (t : Moment) (x : Float) (word : List Char) : Option Moment := do
  if word.length < 3 ∨ 10 < word.length then none
  else
    let name := fold (String.ofList word)
    let singular := if name.endsWith "s" then String.ofList (name.toList.dropLast) else name
    let (_, _, seconds) ← unitsOfTime.find? fun (unit, bound, _) =>
      unit = singular && -bound < x && x < bound
    let count := whole x
    let t ← t.withMilliseconds
    let moves := singular = "month" ∨ singular = "year"
    let t ← if !moves then some t else do
      let t ← t.withDateAndClock
      let (y, m, d) := t.date.getD (2000, 1, 1)
      let (y, m) := if singular = "month" then carried y (m + count) else (y + count, m)
      some { t with date := some (y, m, d), milliseconds := none }
    let rest := if moves then x - ofInteger count else x
    let t ← t.withMilliseconds
    t.shifted (whole (rest * 1000 * seconds + if x < 0 then -0.5 else 0.5))

/-- The start of a month, a year or a day. -/
def startOf (t : Moment) (unit : String) : Option Moment := do
  if t.milliseconds.isNone && t.date.isNone && t.clock.isNone then none
  else
    let t ← t.withDate
    let t := { t with
      clock := some (0, 0, 0), number := none, zone := none, milliseconds := none }
    let (y, m, _) := t.date.getD (2000, 1, 1)
    if unit = "month" then some { t with date := some (y, m, 1) }
    else if unit = "year" then some { t with date := some (y, 1, 1) }
    else if unit = "day" then some t
    else none

/-- The next moment of a day of the week, 0 being Sunday. -/
def onWeekday (t : Moment) (n : Int) : Option Moment := do
  let t ← t.withDateAndClock
  let t ← ({ t with zone := none, milliseconds := none } : Moment).withMilliseconds
  let day := Int.tmod (Int.tdiv (t.milliseconds.getD 0 + 129600000) dayMilliseconds) 7
  let day := if n < day then day - 7 else day
  t.shifted ((n - day) * dayMilliseconds)

/-- Where the number of a change ends: at a blank, at a colon, or behind a year. -/
def numberEnd (s : List Char) : Nat → List Char → Nat
  | n, [] => n
  | n, c :: r =>
    let isYear (width : Nat) : Bool := (digits width 0 14712 (s.drop 1)).isSome
    if c = ':' ∨ isSpace c then n
    else if c = '-' ∧ ((n = 5 ∧ isYear 4) ∨ (n = 6 ∧ isYear 5)) then n
    else numberEnd s (n + 1) r

/-- A change by an amount. -/
def addAmount (t : Moment) (s : List Char) : Option Moment := do
  let n := numberEnd s 1 (s.drop 1)
  let x ← numberOf (s.take n)
  match (s.drop n).head? with
  | some '-' => if s.head?.any isDigit then none else t.addDate s (n - 1)
  | some ':' => t.addClock s
  | _ => t.addUnits x ((s.drop n).dropWhile isSpace)

/-- A moment changed as a text says; the first change of a moment may tell what a number counts. -/
def changed (t : Moment) (name : String) (setting : Setting) (isFirst : Bool) (s : List Char) :
    Except Fault (Option Moment) := do
  let word := fold (String.ofList s)
  let local? : Except Fault (Option Moment) := do
    forbidden name setting
    return (t.withMilliseconds).map fun t => { t with hasZone := word = "utc" || t.hasZone }
  if word = "auto" then
    return if !isFirst then none
      else match t.milliseconds, t.number with
        | none, some x =>
          if x >= -210866760000 && x <= 253402300799 then some (t.ofSeconds x) else some t
        | _, _ => some { t with number := none }
  else if word = "julianday" then
    return if isFirst && t.milliseconds.isSome && t.number.isSome then
      some { t with number := none } else none
  else if word = "localtime" then
    local?
  else if word = "utc" then
    local?
  else if word = "unixepoch" then
    return if !isFirst then none
      else do
        let x ← t.number
        let n := x * 1000 + 210866760000000
        if n >= 0 && n < 464269060800000 then some (t.ofSeconds x) else none
  else if word = "subsec" || word = "subsecond" then
    return some { t with showsMilliseconds := true }
  else if word.startsWith "weekday " then
    return do
      let x ← numberOf (s.drop 8)
      if x >= 0 && x < 7 && ofInteger (whole x) == x then t.onWeekday (whole x) else none
  else if word.startsWith "start of " then
    return t.startOf (String.ofList (word.toList.drop 9))
  else
    match s with
    | [] => return none
    | c :: _ =>
      return if c = '+' ∨ c = '-' ∨ isDigit c then t.addAmount s else none

/-- A moment after some changes. -/
def changedBy (name : String) (setting : Setting) :
    Bool → Moment → List Value → Except Fault (Option Moment)
  | _, t, [] => .ok (some t)
  | isFirst, t, v :: vs => do
    if v.isNull then return none
    else
      match ← t.changed name setting isFirst (untilNull v.chars) with
      | none => return none
      | some t => changedBy name setting false t vs

/-- The moment that the arguments of a function tell. -/
def ofValues (name : String) (setting : Setting) :
    List Value → Except Fault (Option Moment)
  | [] => present name setting
  | v :: vs => do
    let start ← match v with
      | .null => pure none
      | .integer n => pure (some (ofNumber (Number.ofInteger n)))
      | .real x => pure (some (ofNumber x))
      | v => read name setting (untilNull v.chars)
    match start with
    | none => return none
    | some t =>
      match ← changedBy name setting true t vs with
      | none => return none
      | some t =>
        return t.withMilliseconds.bind fun t =>
          if !isInRange (t.milliseconds.getD 0) then none
          else if vs.isEmpty && t.date.any fun (_, _, d) => 28 < d then some { t with date := none }
          else some t

/-! ### Writing -/

/-- A number padded with a character, behind its sign. -/
def padded (fill : Char) (width : Nat) (n : Int) : List Char :=
  let sign := if n < 0 then ['-'] else []
  let ds := Nat.toDigits 10 n.natAbs
  let blanks := List.replicate (width - sign.length - ds.length) fill
  if fill = '0' then sign ++ blanks ++ ds else blanks ++ sign ++ ds

def two (n : Int) : List Char := padded '0' 2 n

/-- A date, a year before the first one with a sign. -/
def dateText (date : Int × Int × Int) : List Char :=
  let (y, m, d) := date
  (if y < 0 then ['-'] else []) ++ padded '0' 4 (y.natAbs % 10000 : Nat) ++
    '-' :: (two m ++ '-' :: two d)

/-- A clock, on demand with milliseconds. -/
def clockText (milliseconds : Bool) (clock : Int × Int × Float) : List Char :=
  let (h, m, s) := clock
  two h ++ ':' :: (two m ++ ':' ::
    if milliseconds then
      let n := whole (1000 * s + 0.5)
      two (n / 1000) ++ '.' :: padded '0' 3 (n % 1000)
    else two (whole s))

/-- The parts of a moment that are shown: its milliseconds, its date and its clock. -/
def parts? (t : Moment) : Option (Int × (Int × Int × Int) × (Int × Int × Float)) := do
  let t ← t.withMilliseconds
  let t ← t.withDateAndClock
  return (← t.milliseconds, ← t.date, ← t.clock)

/-- Seconds since 1970. -/
def secondsSinceEpoch (n : Int) : Int := Int.tdiv n 1000 - 210866760000

/-- The day of the week, 0 being Sunday. -/
def weekday (n : Int) : Int := Int.tmod (Int.tdiv (n + 129600000) dayMilliseconds) 7

/-- A double written by a mark. -/
def realText (m : Mark) (form : Mark.RealForm) (x : Float) : List Char :=
  m.realChars form 'e' x

/-- What a letter of a pattern stands for; none if it stands for nothing. -/
def letterText (t : Moment) (milliseconds : Int) (date : Int × Int × Int)
    (clock : Int × Int × Float) (letter : Char) : Option (List Char) :=
  let (y, m, d) := date
  let (h, min, s) := clock
  let twelve := if h % 12 = 0 then 12 else h % 12
  let dayOfYear := Int.tdiv (milliseconds - (dateMilliseconds y 1 1 +
    h * 3600000 + min * 60000 + whole (s * 1000 + 0.5)) + 43200000) dayMilliseconds
  match letter with
  | 'd' => some (two d)
  | 'e' => some (padded ' ' 2 d)
  | 'f' =>
    some (realText { isZeroPadded := true, width := 6, precision := some 3 } .places
      (if s > 59.999 then 59.999 else s))
  | 'F' => some (padded '0' 4 y ++ '-' :: (two m ++ '-' :: two d))
  | 'H' => some (two h)
  | 'k' => some (padded ' ' 2 h)
  | 'I' => some (two twelve)
  | 'l' => some (padded ' ' 2 twelve)
  | 'W' =>
    let day := Int.tmod (Int.tdiv (milliseconds + 43200000) dayMilliseconds) 7
    some (two (Int.tdiv (dayOfYear + 7 - day) 7))
  | 'j' => some (padded '0' 3 (dayOfYear + 1))
  | 'J' =>
    some (realText { precision := some 16 } .general (ofInteger milliseconds / 86400000))
  | 'm' => some (two m)
  | 'M' => some (two min)
  | 'p' => some (if 12 ≤ h then "PM" else "AM").toList
  | 'P' => some (if 12 ≤ h then "pm" else "am").toList
  | 'R' => some (two h ++ ':' :: two min)
  | 's' =>
    if t.showsMilliseconds then
      some (realText { precision := some 3 } .places
        (ofInteger (milliseconds - epochMilliseconds) / 1000))
    else some (toString (secondsSinceEpoch milliseconds)).toList
  | 'S' => some (two (whole s))
  | 'T' => some (two h ++ ':' :: (two min ++ ':' :: two (whole s)))
  | 'u' => some (toString (if weekday milliseconds = 0 then 7 else weekday milliseconds)).toList
  | 'w' => some (toString (weekday milliseconds)).toList
  | 'Y' => some (padded '0' 4 y)
  | '%' => some ['%']
  | _ => none

/-- A pattern with the parts of a moment in the places of its letters. -/
def patternText (text : Char → Option (List Char)) : List Char → Option (List Char)
  | [] => some []
  | '%' :: c :: s => do return (← text c) ++ (← patternText text s)
  | ['%'] => none
  | c :: s => do return c :: (← patternText text s)

/-- The time between two moments, in whole months and what is left. -/
def difference (a b : Moment) : Option (List Char) := do
  let a ← a.withMilliseconds.bind withDateAndClock
  let b ← b.withMilliseconds.bind withDateAndClock
  let isAfter := b.milliseconds.getD 0 ≤ a.milliseconds.getD 0
  let ((ya, ma, _), (yb, mb, db)) := (← a.date, ← b.date)
  let (years, months) := if isAfter then (ya - yb, ma - mb) else (yb - ya, mb - ma)
  let (years, months) := if months < 0 then (years - 1, months + 12) else (years, months)
  -- The second moment in the year and the month of the first.
  let at_ (y m : Int) : Option Int :=
    (({ b with milliseconds := none, date := some (y, m, db) } : Moment).withMilliseconds).bind
      milliseconds
  let rec nearer : Nat → Int → Int → Int → Int → Option (Int × Int × Int)
    | 0, _, _, _, _ => none
    | fuel + 1, y, m, years, months => do
      let n ← if y = yb ∧ m = mb then b.milliseconds else at_ y m
      let goes := if isAfter then n ≤ a.milliseconds.getD 0 else a.milliseconds.getD 0 ≤ n
      if goes then some (years, months, n)
      else
        let (years, months) := if months = 0 then (years - 1, 11) else (years, months - 1)
        let (y, m) := if isAfter then (if m = 1 then (y - 1, 12) else (y, m - 1))
          else (if m = 12 then (y + 1, 1) else (y, m + 1))
        nearer fuel y m years months
  let (years, months, n) ← nearer 4 ya ma years months
  let rest := (a.milliseconds.getD 0 - n).natAbs + 148699540800000
  let t ← ({ milliseconds := some (rest : Int) } : Moment).withDateAndClock
  let ((_, _, d), (h, m, s)) := (← t.date, ← t.clock)
  return (if isAfter then '+' else '-') :: padded '0' 4 years ++ '-' :: (two months ++ '-' ::
    (two (d - 1) ++ ' ' :: (two h ++ ':' :: (two m ++ ':' ::
      realText { isZeroPadded := true, width := 6, precision := some 3 } .places s))))

end Moment

/-- Functions of dates and times. -/
inductive ClockFunction where
  | julianDay
  | unixEpoch
  | date
  | time
  | dateTime
  | pattern
  | difference
  deriving Repr, DecidableEq

namespace ClockFunction

def name : ClockFunction → String
  | julianDay => "julianday"
  | unixEpoch => "unixepoch"
  | date => "date"
  | time => "time"
  | dateTime => "datetime"
  | pattern => "strftime"
  | difference => "timediff"

/-- What a function shows of a moment. -/
def shown (f : ClockFunction) (t : Moment) : Option Value := do
  let (n, d, clock) ← t.parts?
  let text (s : List Char) : Value := .text (String.ofList s)
  match f with
  | julianDay => some (.real (ofInteger n / 86400000))
  | unixEpoch =>
    some (if t.showsMilliseconds then .real (ofInteger (n - epochMilliseconds) / 1000)
      else .integer (Moment.secondsSinceEpoch n))
  | date => some (text (Moment.dateText d))
  | time => some (text (Moment.clockText t.showsMilliseconds clock))
  | _ => some (text (Moment.dateText d ++ ' ' :: Moment.clockText t.showsMilliseconds clock))

def apply (f : ClockFunction) (setting : Setting) (vs : List Value) : Except Fault Value :=
  let moment := Moment.ofValues f.name setting
  match f, vs with
  | pattern, [] => .ok .null
  | pattern, p :: vs => do
    if p.isNull then return .null
    else
      let shown := (← moment vs).bind fun t =>
        t.parts?.bind fun (n, d, clock) =>
          Moment.patternText (t.letterText n d clock) (untilNull p.chars)
      return (shown.map fun s => .text (String.ofList s)).getD .null
  | difference, [v, w] => do
    match ← moment [v] with
    | none => return .null
    | some a =>
      match ← moment [w] with
      | none => return .null
      | some b => return ((a.difference b).map fun s => .text (String.ofList s)).getD .null
  | f, vs => do return ((← moment vs).bind f.shown).getD .null

end ClockFunction

end EntityEngine.Sql
