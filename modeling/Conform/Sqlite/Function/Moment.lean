import Conform.Sqlite.Function.Basic
import Conform.Sqlite.Function.Text
import Conform.Sqlite.Moment.Printer

/-! Functions of dates and times. Their first argument is a moment, as a number or as a text, and
the others change it one after the other. -/
namespace Conform.Sqlite

namespace Moment

/-- The characters of an argument. -/
def charsOf (s : List UInt8) : List Char := Text.ofBytes (Bytes.upToZero s)

def ofPresent : Option Int → Except MomentFault Moment
  | some instant => .ok { instant := some instant }
  | none => .error .fickle

/-- The moment of a first argument. -/
def ofValue (present : Option Int) : Value → Except MomentFault Moment
  | .null => .error .meaningless
  | .integer n => .ok (ofNumber (floatOf n))
  | .real x => .ok (ofNumber x.toFloat)
  | .text s | .blob s => ofText present (charsOf s)

/-- The moment after an argument that changes it. -/
def changed (present : Option Int) (m : Moment) (change : Value × Nat) :
    Except MomentFault Moment :=
  match change.1.text? with
  | some s => m.modified present (change.2 = 0) (charsOf s)
  | none => .error .meaningless

/-- The moment of all arguments; without any the present. A date alone that is beyond the end of
its month is the later date. -/
def ofValues (present : Option Int) : List Value → Except MomentFault Moment
  | [] => ofPresent present
  | v :: changes => do
    let m ← changes.zipIdx.foldlM (changed present) (← ofValue present v)
    let m := m.settled
    if m.isFaulty || !isValid (m.instant.getD 0) then throw .meaningless
    if changes.isEmpty && m.date.any (28 < ·.day) then return { m with date := none }
    return m

/-- What a function of moments gives. -/
def answer (present : Option Int) : (function : String) → List Value →
    Except MomentFault Value
  | "date", vs => do
    return .ofChars (dateText ((← ofValues present vs).dated.date.getD default))
  | "time", vs => do
    let m := (← ofValues present vs).timed
    return .ofChars (clockText m.subsecond (m.clock.getD {}))
  | "datetime", vs => do
    let m := (← ofValues present vs).complete
    return .ofChars (dateText (m.date.getD default) ++ ' ' ::
      clockText m.subsecond (m.clock.getD {}))
  | "julianday", vs => do
    let m ← ofValues present vs
    return .real (.ofFloat (floatOf (m.instant.getD 0) / 86400000.0))
  | "unixepoch", vs => do
    let m ← ofValues present vs
    let instant := m.instant.getD 0
    if m.subsecond then return .real (.ofFloat (floatOf (instant - epoch) / 1000.0))
    return .integer (instant / 1000 - epoch / 1000)
  | "strftime", pattern :: vs => match pattern.text? with
    | none => return .null
    | some pattern => do
      let shown := (← ofValues present vs).shown
      return ((shown.fill (charsOf pattern)).map fun s =>
        .text (s.map fun c => UInt8.ofNat c.toNat)).getD .null
  | "timediff", [v, w] => do
    let a ← ofValues present [v]
    let b ← ofValues present [w]
    return .ofChars (difference a.shown b.shown)
  | _, _ => return .null

/-- A moment without meaning is null. -/
def toAnswer : Except MomentFault Value → Answer
  | .ok v => .value v
  | .error .meaningless => .null
  | .error .fickle => .error .fickle

end Moment

end Conform.Sqlite
