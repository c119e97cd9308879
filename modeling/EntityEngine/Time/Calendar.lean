/-!
The Gregorian calendar, carried back before its start: the date of a day number and the day number
of a date. Day 0 is the first of January of the year 0. The calendar repeats after 400 years.
-/

namespace EntityEngine.Time

def isLeapYear (year : Int) : Bool := year % 4 == 0 && (year % 100 != 0 || year % 400 == 0)

def yearLength (year : Int) : Nat := if isLeapYear year then 366 else 365

/-- The lengths of the months of a year. -/
def monthLengths (year : Int) : List Nat :=
  [31, if isLeapYear year then 29 else 28, 31, 30, 31, 30, 31, 31, 30, 31, 30, 31]

/-- The lengths of the years of one cycle. -/
def cycleLengths : List Nat := (List.range 400).map fun (year : Nat) => yearLength year

/-- The days of 400 years. -/
def cycleDays : Nat := 146097

/-- The stretch that a position falls into, when stretches of some lengths follow one another, and
the position inside it. -/
def locate : List Nat → Nat → Nat × Nat
  | [], n => (0, n)
  | length :: rest, n =>
    if n < length then (0, n)
    else
      let (i, r) := locate rest (n - length)
      (i + 1, r)

/-- The length of some stretches that follow one another. -/
def extent : List Nat → Nat
  | [] => 0
  | length :: rest => length + extent rest

/-- The position of a place inside a stretch. -/
def position (lengths : List Nat) (i r : Nat) : Nat := extent (lengths.take i) + r

theorem position_locate (lengths : List Nat) (n : Nat) :
    position lengths (locate lengths n).1 (locate lengths n).2 = n := by
  induction lengths generalizing n with
  | nil => simp [locate, position, extent]
  | cons length rest ih =>
    simp only [locate]
    split
    · simp [position, extent]
    · next h =>
      have := ih (n - length)
      simp only [position, List.take_succ_cons, extent] at this ⊢
      omega

theorem locate_lt {lengths : List Nat} {n : Nat} (h : n < extent lengths) :
    (locate lengths n).1 < lengths.length := by
  induction lengths generalizing n with
  | nil => simp [extent] at h
  | cons length rest ih =>
    simp only [locate]
    split
    · simp
    · next hn =>
      have := ih (n := n - length) (by simp only [extent] at h; omega)
      simp only [List.length_cons]; omega

structure Date where
  year : Int
  month : Nat
  day : Nat
  deriving Repr, DecidableEq

namespace Date

/-- A month of the year and a day of that month, both counted from 1. -/
def isValid (d : Date) : Bool :=
  1 ≤ d.month && d.month ≤ 12 && 1 ≤ d.day &&
    d.day ≤ ((monthLengths d.year)[d.month - 1]?).getD 0

/-- The date of a day number. -/
def ofDay (day : Int) : Date :=
  let cycle := day / cycleDays
  let (yearInCycle, dayOfYear) := locate cycleLengths (day % cycleDays).toNat
  let year := 400 * cycle + yearInCycle
  let (month, dayOfMonth) := locate (monthLengths year) dayOfYear
  ⟨year, month + 1, dayOfMonth + 1⟩

/-- The day number of a date. -/
def toDay (d : Date) : Int :=
  let cycle := d.year / 400
  let yearInCycle := (d.year % 400).toNat
  let dayOfYear := position (monthLengths d.year) (d.month - 1) (d.day - 1)
  cycleDays * cycle + position cycleLengths yearInCycle dayOfYear

end Date

/-- The day number of the first of January 1970. -/
def epochDay : Int := 719528

/-- A point in time: seconds since the start of 1970, and nanoseconds. Nanoseconds from 10⁹ on
belong to a leap second, which follows the given second. -/
structure Instant where
  second : Int
  nano : Nat
  deriving Repr, DecidableEq

namespace Instant

/-- Truncated to whole microseconds. -/
def toMicros (t : Instant) : Instant := { t with nano := t.nano / 1000 * 1000 }

def day (t : Instant) : Int := t.second / 86400 + epochDay

def date (t : Instant) : Date := Date.ofDay t.day

/-- The second of the day, a leap second counting as the one before it. -/
def secondOfDay (t : Instant) : Nat := (t.second % 86400).toNat

/-- The instant of a date, a second of its day and nanoseconds. -/
def ofDate (d : Date) (secondOfDay : Nat) (nano : Nat) : Instant :=
  ⟨(d.toDay - epochDay) * 86400 + secondOfDay, nano⟩

end Instant

end EntityEngine.Time
