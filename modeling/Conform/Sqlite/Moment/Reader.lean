import Conform.Sqlite.Moment
import Conform.Sqlite.Numeral
import Conform.Text.Scan

/-! Reading moments from texts, and the words that change them afterwards. -/
namespace Conform.Sqlite

open Text (digitsValue)

namespace Moment

def isSpaceChar (c : Char) : Bool := c == ' ' || ('\t' ≤ c && c ≤ '\r')

/-- A number of exactly so many digits between two bounds. -/
def readField (count least most : Nat) (s : List Char) : Option (Nat × List Char) :=
  let digits := s.take count
  let n := digitsValue digits
  if digits.length = count ∧ digits.all Char.isDigit ∧ least ≤ n ∧ n ≤ most then
    some (n, s.drop count)
  else none

/-- Numbers with one character between each two. -/
def readFields (between : Char) : List (Nat × Nat × Nat) → List Char →
    Option (List Nat × List Char)
  | [], s => some ([], s)
  | (count, least, most) :: fields, s => do
    let (n, s) ← readField count least most s
    if fields.isEmpty then return ([n], s)
    match s with
    | c :: s =>
      if c ≠ between then none
      let (ns, s) ← readFields between fields s
      return (n :: ns, s)
    | [] => none

def hourAndMinute : List (Nat × Nat × Nat) := [(2, 0, 24), (2, 0, 59)]

/-- A zone at the end of a text, as the minutes that its clock is ahead. -/
def readZone (s : List Char) : Option Int := do
  let (sign, rest) : Int × List Char ← match s.dropWhile isSpaceChar with
    | '-' :: rest => some (-1, rest)
    | '+' :: rest => some (1, rest)
    | 'Z' :: rest | 'z' :: rest => some (0, rest)
    | [] => some (0, [])
    | _ => none
  if sign = 0 then
    if rest.all isSpaceChar then return 0 else none
  match ← readFields ':' [(2, 0, 14), (2, 0, 59)] rest with
  | ([hours, minutes], rest) =>
    if rest.all isSpaceChar then return sign * (60 * hours + minutes) else none
  | _ => none

/-- The digits of a fraction, one after the other. -/
def fractionOf (digits : List Char) : Float :=
  let (n, scale) := digits.foldl (fun (n, scale) c =>
    (n * 10.0 + floatOf (c.toNat - '0'.toNat), scale * 10.0)) ((0.0, 1.0) : Float × Float)
  n / scale

/-- A time of day, with the minutes that its clock is ahead. -/
def readClock (s : List Char) : Option (Clock × Int) := do
  match ← readFields ':' hourAndMinute s with
  | ([hour, minute], s) =>
    let (second, s) : Float × List Char ← match s with
      | ':' :: s => do
        let (whole, s) ← readField 2 0 59 s
        match s with
        | '.' :: c :: rest =>
          if c.isDigit then
            let digits := (c :: rest).takeWhile Char.isDigit
            pure (floatOf whole + fractionOf digits, (c :: rest).drop digits.length)
          else pure (floatOf whole, s)
        | s => pure (floatOf whole, s)
      | s => pure (0, s)
    return ({ hour, minute, second }, ← readZone s)
  | _ => none

/-- A date, perhaps with a time of day after it. -/
def readDate (s : List Char) : Option Moment := do
  let (sign, s) : Int × List Char := match s with
    | '-' :: rest => (-1, rest)
    | s => (1, s)
  match ← readFields '-' [(4, 0, 14712), (2, 1, 12), (2, 1, 31)] s with
  | ([year, month, day], s) =>
    let date : Date := ⟨sign * year, month, day⟩
    let m : Moment := { date := some date, excess := date.excess }
    match readClock (s.dropWhile fun c => isSpaceChar c || c == 'T') with
    | some (clock, zone) => return { m with clock := some clock, zone }
    | none => if (s.dropWhile fun c => isSpaceChar c || c == 'T').isEmpty then return m else none
  | _ => none

/-- The number that a text is. -/
def readNumber (s : List Char) : Option Float :=
  let n := Numeral.ofBytes (s.map fun c => UInt8.ofNat c.toNat)
  if n.form == .integer || n.form == .real then some n.value.toFloat else none

def small (s : List Char) : String := String.ofList (s.map Char.toLower)

/-- The moment that a text names. `present` is the present, unless it may not be asked for. -/
def ofText (present : Option Int) (s : List Char) : Except MomentFault Moment := do
  let now (subsecond : Bool) : Except MomentFault Moment := match present with
    | some instant => return { instant := some instant, subsecond }
    | none => throw .fickle
  let isWord (w : String) : Bool := small s == w
  if let some m := readDate s then
    return if m.zone ≠ 0 then m.settled else m
  else if let some (clock, zone) := readClock s then return { clock := some clock, zone }
  else if isWord "now" then now false
  else if let some x := readNumber s then return ofNumber x
  else if isWord "subsec" || isWord "subsecond" then now true
  else throw .meaningless

/-! ### Modifiers -/

/-- Units of time: the name, a bound on their number, and the length in seconds. -/
def units : List (String × Float × Float) := [
  ("second", 464269992787968.0, 1.0), ("minute", 7737900007424.0, 60.0),
  ("hour", 128969998336.0, 3600.0), ("day", 5373485.0, 86400.0),
  ("month", 176546.0, 2592000.0), ("year", 14713.0, 31536000.0)]

/-- Takes a number as a count of seconds since 1970. -/
def ofSeconds (m : Moment) (x : Float) : Moment :=
  { m.bare with instant := some (wholeOf (x * 1000.0 + floatOf epoch + 0.5)), number := none }

/-- The next day, or the same one, that is the given day of the week. -/
def toWeekday (m : Moment) (n : Int) : Moment :=
  let m := { m.complete with zone := 0, instant := none }.settled
  let day := ((m.instant.getD 0 + 129600000) / dayLength) % 7
  m.later ((if n < day then n - day + 7 else n - day) * dayLength)

/-- The beginning of the day, the month or the year. -/
def toStart (m : Moment) (unit : String) : Except MomentFault Moment := do
  if m.instant.isNone && m.date.isNone && m.clock.isNone then throw .meaningless
  let m := m.dated
  let date := m.date.getD ⟨2000, 1, 1⟩
  let start ← match unit with
    | "day" => pure date
    | "month" => pure { date with day := 1 }
    | "year" => pure { date with month := 1, day := 1 }
    | _ => throw .meaningless
  return { m with
    instant := none, date := some start, clock := some {}, number := none, zone := 0 }

/-- Adds a number of some unit. Months and years go by the calendar; what is left of them does not,
and is of the same length always. -/
def addUnits (m : Moment) (x : Float) (unit : String) : Except MomentFault Moment := do
  let unit := if unit.endsWith "s" then (unit.dropEnd 1).toString else unit
  let m := m.settled
  match units.lookup unit with
  | none => throw .meaningless
  | some (limit, length) =>
    if !(-limit < x && x < limit) then throw .meaningless
    let whole := wholeOf x
    let step (date : Date) (m : Moment) : Moment :=
      { m with date := some date, excess := date.excess, instant := none }
    let m := { m with excess := 0 }
    let date := m.complete.date.getD default
    let (m, left) := match unit with
      | "month" =>
        (step { date with month := date.month + whole }.carried m.complete, x - floatOf whole)
      | "year" => (step { date with year := date.year + whole } m.complete, x - floatOf whole)
      | _ => (m, x)
    return m.later (wholeOf (left * 1000.0 * length + (if x < 0 then -0.5 else 0.5)))

/-- Adds a time of day, or takes it away. -/
def addClock (m : Moment) (negative : Bool) (s : List Char) : Except MomentFault Moment := do
  match readClock s with
  | none => throw .meaningless
  | some (clock, zone) =>
    let length := (toInstant { clock := some clock, zone } - dayLength / 2) % dayLength
    return m.later (if negative then -length else length)

/-- Adds years, months and days, or takes them away. -/
def addDate (m : Moment) (negative : Bool) (years months days : Nat) :
    Except MomentFault Moment := do
  if 12 ≤ months || 31 ≤ days then throw .meaningless
  let m := m.complete
  let date := m.date.getD default
  let sign : Int := if negative then -1 else 1
  let date := { date with
    year := date.year + sign * years, month := date.month + sign * months }.carried
  return { m with instant := none, date := some date, excess := date.excess }.later
    (sign * days * dayLength)

/-- The number of characters before a colon, a space or the hyphen after a year. -/
def numberLength (s : List Char) : (fuel n : Nat) → Nat
  | 0, n => n
  | fuel + 1, n =>
    let isYear (count : Nat) : Bool := n == count + 1 &&
      (readField count 0 14712 (s.drop 1)).isSome
    match s[n]? with
    | none => n
    | some c =>
      if c == ':' || isSpaceChar c || (c == '-' && (isYear 4 || isYear 5)) then n
      else numberLength s fuel (n + 1)

/-- What a modifier that begins with a number or a sign does. -/
def shifted (m : Moment) (s : List Char) : Except MomentFault Moment := do
  let n := numberLength s s.length 1
  let negative := s.head? == some '-'
  let isSigned := negative || s.head? == some '+'
  let unsigned := if isSigned then s.drop 1 else s
  match readNumber (s.take n) with
  | none => throw .meaningless
  | some x => match s[n]? with
    | some '-' =>
      if !isSigned then throw .meaningless
      match readFields '-' [(n - 1, 0, 14712), (2, 0, 12), (2, 0, 31)] unsigned with
      | some ([years, months, days], rest) =>
        let m ← m.addDate negative years months days
        match rest with
        | [] => return m
        | c :: rest =>
          if isSpaceChar c && (readFields ':' hourAndMinute rest).isSome then
            m.addClock negative rest
          else throw .meaningless
      | _ => throw .meaningless
    | some ':' => m.addClock negative unsigned
    | _ =>
      let unit := (s.drop n).dropWhile isSpaceChar
      if unit.length < 3 || 10 < unit.length then throw .meaningless
      m.addUnits x (small unit)

/-- The moment after a modifier. The first one may say what a number counts. -/
def modified (present : Option Int) (isFirst : Bool) (m : Moment) (s : List Char) :
    Except MomentFault Moment := do
  match small s, m.number with
  | "auto", number =>
    if !isFirst then throw .meaningless
    match number, m.instant with
    | some x, none =>
      if -210866760000.0 ≤ x && x ≤ 253402300799.0 then return m.ofSeconds x
      else throw .meaningless
    | _, _ => return { m with number := none }
  | "ceiling", _ => return { m.settled.bare with excess := 0 }
  | "floor", _ => return m.later (-m.excess * dayLength)
  | "julianday", number =>
    if isFirst && number.isSome && m.instant.isSome then return { m with number := none }
    else throw .meaningless
  | "unixepoch", some x =>
    let r := x * 1000.0 + floatOf epoch
    if isFirst && 0.0 ≤ r && r < 464269060800000.0 then return m.ofSeconds x
    else throw .meaningless
  | "localtime", _ =>
    if present.isNone then throw .fickle
    let m := m.settled.complete.dated
    return { m with instant := none, zone := 0, number := none, isFaulty := false }
  | "utc", _ =>
    if present.isNone then throw .fickle
    return { instant := some m.toInstant }
  | "subsec", _ | "subsecond", _ => return { m with subsecond := true }
  | word, _ =>
    let c := s.head?.getD ' '
    if word.startsWith "weekday " then
      match readNumber (s.drop 8) with
      | some x =>
        if 0 ≤ x && x < 7 && floatOf (wholeOf x) == x then return m.toWeekday (wholeOf x)
        else throw .meaningless
      | none => throw .meaningless
    else if word.startsWith "start of " then m.toStart (word.drop 9).toString
    else if c == '+' || c == '-' || c.isDigit then m.shifted s
    else throw .meaningless

end Moment

end Conform.Sqlite
