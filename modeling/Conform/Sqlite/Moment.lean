import Conform.Number.Binary64

/-! Points in time, to the millisecond. A moment is an instant, counted from noon of the first day
of the year -4713 of the Gregorian calendar, or a date and a time of day, or both. A date that is
given may have too many days for its month; an instant has settled that. -/
namespace Conform.Sqlite

structure Date where
  year : Int
  month : Int
  day : Int
  deriving DecidableEq, Repr, Inhabited

/-- A time of day. -/
structure Clock where
  hour : Nat := 0
  minute : Nat := 0
  second : Float := 0
  deriving Inhabited

structure Moment where
  /-- Milliseconds since the first instant. -/
  instant : Option Int := none
  date : Option Date := none
  clock : Option Clock := none
  /-- How many minutes the clock is ahead. -/
  zone : Int := 0
  /-- The number that the moment was given as. -/
  number : Option Float := none
  /-- How many days the date has too many. -/
  excess : Int := 0
  /-- Are fractions of a second shown? -/
  subsecond : Bool := false
  /-- Has it been beyond the years that there are? -/
  isFaulty : Bool := false
  deriving Inhabited

/-- Why a moment has no value. -/
inductive MomentFault where
  | meaningless
  /-- It depends on the present. -/
  | fickle
  deriving DecidableEq, Repr

/-- The milliseconds of a day. -/
def dayLength : Int := 86400000

/-- The instant at which the count of seconds begins, with the year 1970. -/
def epoch : Int := 210866760000000

/-- The last instant of the year 9999. -/
def lastInstant : Int := 464269060799999

namespace Date

def isLeap (year : Int) : Bool :=
  year.tmod 4 = 0 && (year.tmod 100 != 0 || year.tmod 400 = 0)

/-- How many days the date has too many for its month. -/
def excess (d : Date) : Int :=
  if d.day ≤ 28 ∨ [1, 3, 5, 7, 8, 10, 12].contains d.month then 0
  else if d.month ≠ 2 then (if d.day = 31 then 1 else 0)
  else if isLeap d.year then d.day - 29
  else d.day - 28

/-- The instant at which the date begins. -/
def instant (d : Date) : Int :=
  let (year, month) := if d.month ≤ 2 then (d.year - 1, d.month + 12) else (d.year, d.month)
  let centuries := year.tdiv 100
  let leaps := 2 - centuries + centuries.tdiv 4
  let days := (36525 * (year + 4716)).tdiv 100 + (306001 * (month + 1)).tdiv 10000 + d.day + leaps
  (2 * days - 3049) * (dayLength / 2)

/-- The date of an instant. -/
def ofInstant (instant : Int) : Date :=
  let z := (instant + dayLength / 2) / dayLength
  let centuries := (4 * z + 128179) / 146097 - 52
  let b := z + 1 + centuries - (centuries + 100) / 4 + 25 + 1524
  let c := (100 * b - 12210) / 36525
  let d := 36525 * (c % 32768) / 100
  let e := (b - d) * 10000 / 306001
  let month := if e < 14 then e - 1 else e - 13
  { year := if 2 < month then c - 4716 else c - 4715
    month
    day := b - d - 306001 * e / 10000 }

/-- The date with its month brought into the year. -/
def carried (d : Date) : Date :=
  let years := if 0 < d.month then (d.month - 1).tdiv 12 else (d.month - 12).tdiv 12
  { d with year := d.year + years, month := d.month - 12 * years }

end Date

/-- The whole number next to a number on the side of zero. -/
def wholeOf (x : Float) : Int := x.toInt64.toInt

def floatOf (n : Int) : Float := (Binary64.ofInt n).toFloat

namespace Clock

/-- Milliseconds since the day began. -/
def length (c : Clock) : Int :=
  Int.ofNat c.hour * 3600000 + Int.ofNat c.minute * 60000 + wholeOf (c.second * 1000 + 0.5)

def ofInstant (instant : Int) : Clock :=
  let n := ((instant + dayLength / 2) % dayLength).toNat
  ⟨n / 3600000, n / 60000 % 60, floatOf (n % 60000) / 1000⟩

end Clock

namespace Moment

/-- The instant that a number stands for, as a count of days. -/
def ofNumber (x : Float) : Moment :=
  { number := some x
    instant := if 0 ≤ x && x < 5373484.5 then some (wholeOf (x * 86400000.0 + 0.5)) else none }

def isValid (instant : Int) : Bool := 0 ≤ instant && instant ≤ lastInstant

/-- What is left of a moment beyond the years that there are. -/
def fault : Moment := { isFaulty := true }

/-- The moment with its instant. Without a date it is on the first day of the year 2000. -/
def settled (m : Moment) : Moment :=
  if m.instant.isSome then m
  else
    let d := m.date.getD ⟨2000, 1, 1⟩
    if d.year < -4713 ∨ 9999 < d.year ∨ m.number.isSome then fault
    else match m.clock with
      | none => { m with instant := some d.instant }
      | some c =>
        let instant := d.instant + c.length
        if m.zone = 0 then { m with instant := some instant }
        else { m with
          instant := some (instant - m.zone * 60000)
          date := none
          clock := none
          zone := 0 }

/-- The instant of a moment. -/
def toInstant (m : Moment) : Int := m.settled.instant.getD 0

/-- The moment with its date. -/
def dated (m : Moment) : Moment :=
  if m.date.isSome then m
  else match m.instant with
    | none => { m with date := some ⟨2000, 1, 1⟩ }
    | some instant =>
      if isValid instant then { m with date := some (.ofInstant instant) } else fault

/-- The moment with its time of day. -/
def timed (m : Moment) : Moment :=
  if m.clock.isSome then m
  else
    let m := m.settled
    { m with clock := some (.ofInstant (m.instant.getD 0)), number := none }

/-- The moment with its date and its time of day. -/
def complete (m : Moment) : Moment := m.dated.timed

/-- The moment as an instant alone. -/
def bare (m : Moment) : Moment := { m with date := none, clock := none, zone := 0 }

/-- The moment some milliseconds later. -/
def later (m : Moment) (n : Int) : Moment :=
  let m := m.settled
  { m.bare with instant := m.instant.map (· + n) }

end Moment

end Conform.Sqlite
