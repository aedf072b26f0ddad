import Conform.Sqlite.Function.Format
import Conform.Sqlite.Moment.Reader

/-! Moments as texts: dates, times of day, and texts after a pattern. -/
namespace Conform.Sqlite

namespace Moment

/-- An integer with zeros up to a width. -/
def filled (width : Nat) (n : Int) : List Char :=
  Directive.integer { zeros := true, width } 'd' n

/-- An integer with spaces up to a width. -/
def spaced (width : Nat) (n : Int) : List Char :=
  let written := (toString n).toList
  List.replicate (width - written.length) ' ' ++ written

/-- A real number with three places. -/
def inThousandths (width : Nat) (x : Float) : List Char :=
  Directive.real { zeros := true, width, precision := some 3 } 'f' (Binary64.ofFloat x)

def dateText (d : Date) : List Char :=
  (if d.year < 0 then ['-'] else []) ++ filled 4 d.year.natAbs ++ '-' :: filled 2 d.month ++
    '-' :: filled 2 d.day

def clockText (subsecond : Bool) (c : Clock) : List Char :=
  let second :=
    if subsecond then
      let n := wholeOf (1000.0 * c.second + 0.5)
      filled 2 (n / 1000) ++ '.' :: filled 3 (n % 1000)
    else filled 2 (wholeOf c.second)
  filled 2 c.hour ++ ':' :: filled 2 c.minute ++ ':' :: second

/-- A moment that is complete, with its instant, as patterns show it. -/
structure Shown where
  instant : Int
  date : Date
  clock : Clock
  subsecond : Bool

namespace Shown

/-- Days since the year began. -/
def dayOfYear (s : Shown) : Int :=
  let newYear := (⟨s.date.year, 1, 1⟩ : Date).instant + s.clock.length
  (s.instant - newYear + dayLength / 2).tdiv dayLength

/-- Days since Monday. -/
def afterMonday (s : Shown) : Int := ((s.instant + dayLength / 2) / dayLength) % 7

/-- Days since Sunday. -/
def afterSunday (s : Shown) : Int := ((s.instant + 129600000) / dayLength) % 7

/-- The Thursday of the same week. -/
def thursday (s : Shown) : Shown :=
  let instant := s.instant + (3 - s.afterMonday) * dayLength
  { s with instant, date := .ofInstant instant }

/-- The hour as a clock of twelve hours shows it. -/
def hourOfTwelve (s : Shown) : Nat :=
  let hour := if 12 < s.clock.hour then s.clock.hour - 12 else s.clock.hour
  if hour = 0 then 12 else hour

/-- What a letter after a percent sign stands for. -/
def piece? (s : Shown) (letter : Char) : Option (List Char) :=
  let second := wholeOf s.clock.second
  match letter with
  | 'd' => some (filled 2 s.date.day)
  | 'e' => some (spaced 2 s.date.day)
  | 'f' => some (inThousandths 6 (if 59.999 < s.clock.second then 59.999 else s.clock.second))
  | 'F' => some (filled 4 s.date.year ++ '-' :: filled 2 s.date.month ++ '-' :: filled 2 s.date.day)
  | 'G' => some (filled 4 s.thursday.date.year)
  | 'g' => some (filled 2 (s.thursday.date.year.tmod 100))
  | 'H' => some (filled 2 s.clock.hour)
  | 'k' => some (spaced 2 s.clock.hour)
  | 'I' => some (filled 2 s.hourOfTwelve)
  | 'l' => some (spaced 2 s.hourOfTwelve)
  | 'j' => some (filled 3 (s.dayOfYear + 1))
  | 'J' => some (RealStyle.magnitude { kind := .general, precision := 16 }
      (Binary64.ofFloat (floatOf s.instant / 86400000.0)))
  | 'm' => some (filled 2 s.date.month)
  | 'M' => some (filled 2 s.clock.minute)
  | 'p' => some (if 12 ≤ s.clock.hour then "PM" else "AM").toList
  | 'P' => some (if 12 ≤ s.clock.hour then "pm" else "am").toList
  | 'R' => some (filled 2 s.clock.hour ++ ':' :: filled 2 s.clock.minute)
  | 's' => some (if s.subsecond then inThousandths 0 (floatOf (s.instant - epoch) / 1000.0)
      else (toString (s.instant / 1000 - epoch / 1000)).toList)
  | 'S' => some (filled 2 second)
  | 'T' => some (filled 2 s.clock.hour ++ ':' :: filled 2 s.clock.minute ++ ':' ::
      filled 2 second)
  | 'u' => some (toString (if s.afterSunday = 0 then 7 else s.afterSunday)).toList
  | 'w' => some (toString s.afterSunday).toList
  | 'U' => some (filled 2 ((s.dayOfYear - s.afterSunday + 7).tdiv 7))
  | 'V' => some (filled 2 (s.thursday.dayOfYear.tdiv 7 + 1))
  | 'W' => some (filled 2 ((s.dayOfYear - s.afterMonday + 7).tdiv 7))
  | 'Y' => some (filled 4 s.date.year)
  | '%' => some ['%']
  | _ => none

/-- The pattern with all its letters filled in, if they all stand for something. -/
def fill (s : Shown) : List Char → Option (List Char)
  | [] => some []
  | '%' :: c :: rest => do return (← s.piece? c) ++ (← fill s rest)
  | ['%'] => none
  | c :: rest => (fill s rest).map (c :: ·)

end Shown

def shown (m : Moment) : Shown :=
  let m := m.settled.complete
  ⟨m.instant.getD 0, m.date.getD default, m.clock.getD {}, m.subsecond⟩

/-- A number of years and months. -/
structure Distance where
  years : Int
  months : Int

/-- Takes months off a distance until the instant of the date, at a time of day, is not beyond the
goal. -/
def approach (forward : Bool) (goal : Int) (clock : Clock) : (fuel : Nat) → (instant : Int) →
    Distance → Date → Distance × Int
  | 0, instant, d, _ => (d, instant)
  | fuel + 1, instant, d, date =>
    if (if forward then goal < instant else instant < goal) then
      let d : Distance := if d.months < 1 then ⟨d.years - 1, 11⟩ else ⟨d.years, d.months - 1⟩
      let next : Date := { date with month := if forward then date.month - 1 else date.month + 1 }
      let next : Date :=
        if next.month < 1 then { next with month := 12, year := next.year - 1 }
        else if 12 < next.month then { next with month := 1, year := next.year + 1 }
        else next
      approach forward goal clock fuel (next.instant + clock.length) d next
    else (d, instant)

/-- From the second moment to the first: years, months, days and a time of day after a sign. -/
def difference (a b : Shown) : List Char :=
  let isLater := b.instant ≤ a.instant
  let sign : Int := if isLater then 1 else -1
  let years := sign * (a.date.year - b.date.year)
  let months := sign * (a.date.month - b.date.month)
  let (years, months) := if months < 0 then (years - 1, months + 12) else (years, months)
  let start : Date := { b.date with
    year := a.date.year
    month := if months ≠ 0 then a.date.month else b.date.month }
  let instant := if start = b.date then b.instant else start.instant + b.clock.length
  let (d, reached) := approach isLater a.instant b.clock 24 instant ⟨years, months⟩ start
  let rest := sign * (a.instant - reached) + 148699540800000
  let date := Date.ofInstant rest
  let clock := Clock.ofInstant rest
  (if isLater then '+' else '-') :: filled 4 d.years ++ '-' :: filled 2 d.months ++
    '-' :: filled 2 (date.day - 1) ++ ' ' :: filled 2 clock.hour ++ ':' ::
    filled 2 clock.minute ++ ':' :: inThousandths 6 clock.second

end Moment

end Conform.Sqlite
