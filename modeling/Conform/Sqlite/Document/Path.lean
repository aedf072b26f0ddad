import Conform.Sqlite.Document

/-! Paths within documents. A path is read step by step on the way, so that what comes after a step
that leads nowhere does not matter. -/
namespace Conform.Sqlite

namespace Document

/-- Why a path leads nowhere. -/
inductive PathFault where
  | missing
  | malformed
  deriving DecidableEq, Repr, Inhabited

abbrev Label := Spelling × List UInt8

inductive Step where
  | label (l : Label)
  | item (position : Nat)
  deriving DecidableEq, Repr

/-- Positions are counted as words of 32 bits. -/
def positionOf (digits : List UInt8) : Nat :=
  digits.foldl (fun n b => (10 * n + digitOf b) % 0x100000000) 0

/-- The position in brackets in a list of so many items. After a number sign it counts from behind
the last one. -/
def position (count : Nat) (s : List UInt8) : Except PathFault (Nat × List UInt8) := do
  let digits := s.takeWhile isDigitByte
  match digits.isEmpty, s.drop digits.length, s with
  | false, 0x5D :: rest, _ => return (positionOf digits, rest)
  | _, _, 0x23 :: 0x5D :: rest => return (count, rest)
  | _, _, 0x23 :: 0x2D :: s =>
    let digits := s.takeWhile isDigitByte
    if digits.isEmpty then throw .malformed
    if count < positionOf digits then throw .missing
    match s.drop digits.length with
    | 0x5D :: rest => return (count - positionOf digits, rest)
    | _ => throw .malformed
  | _, _, _ => throw .malformed

/-- The first step of a path into a document, and the rest of the path. -/
def step (d : Document) (path : List UInt8) : Except PathFault (Step × List UInt8) :=
  match path with
  | 0x2E :: 0x22 :: s =>
    let name := s.takeWhile (· != 0x22)
    if name.length = s.length then .error .malformed
    else
      let spelling : Spelling := if name.contains 0x5C then .loose else .raw
      .ok (.label (spelling, name), s.drop (name.length + 1))
  | 0x2E :: s =>
    let name := s.takeWhile fun b => b != 0x2E && b != 0x5B
    if name.isEmpty then .error .malformed
    else .ok (.label (.raw, name), s.drop name.length)
  | 0x5B :: s => match d with
    | array items => (position items.length s).map fun (n, rest) => (.item n, rest)
    | _ => .error .missing
  | _ => .error .malformed

/-- Is the part the label? -/
def isNamed (l : Label) : Document → Bool
  | text spelling s => sameLabel l (spelling, s)
  | _ => false

/-- The value beside a label. -/
def part? (l : Label) : List Document → Option Document
  | label :: d :: rest => if isNamed l label then some d else part? l rest
  | _ => none

/-- What is at the end of a path, which has fewer steps than `fuel`. -/
def lookup : (fuel : Nat) → Document → (path : List UInt8) → Except PathFault Document
  | 0, _, _ => .error .malformed
  | _ + 1, d, [] => .ok d
  | fuel + 1, d, path => do
    let (s, rest) ← d.step path
    let next := match s, d with
      | .label l, object parts => part? l parts
      | .item n, array items => items[n]?
      | _, _ => none
    match next with
    | some d => lookup fuel d rest
    | none => throw .missing

/-- The document at the end of a path that begins at the whole. -/
def at? (d : Document) (path : List UInt8) : Except PathFault Document :=
  lookup (path.length + 1) d path

/-! ### Changes -/

/-- What is done at the end of a path. -/
inductive Edit where
  | remove
  /-- Another document stands there instead of one that stands there already. -/
  | replace (d : Document)
  /-- A document stands there, unless another does. -/
  | insert (d : Document)
  /-- The document stands there in any case. -/
  | put (d : Document)

namespace Edit

/-- What stands at the end of a path instead of a document. -/
def instead (old : Document) : Edit → Option Document
  | remove => none
  | replace d | put d => some d
  | insert _ => some old

/-- What is put where there was nothing. -/
def fresh? : Edit → Option Document
  | remove | replace _ => none
  | insert d | put d => some d

end Edit

/-- The parts with what `f` makes of the value beside a label, or of nothing. -/
def alterPart [Monad m] (l : Label) (f : Option Document → m (Option Document)) :
    List Document → m (List Document)
  | label :: d :: rest => do
    if isNamed l label then
      match ← f (some d) with
      | some d => return label :: d :: rest
      | none => return rest
    else return label :: d :: (← alterPart l f rest)
  | _ => do
    match ← f none with
    | some d => return [text l.1 l.2, d]
    | none => return []

/-- The items with what `f` makes of the one at a position, or of nothing right behind the last. -/
def alterItem [Monad m] (f : Option Document → m (Option Document)) :
    Nat → List Document → m (List Document)
  | 0, d :: rest => return (← f (some d)).toList ++ rest
  | 0, [] => return (← f none).toList
  | n + 1, d :: rest => return d :: (← alterItem f n rest)
  | _ + 1, [] => return []

/-- The list that a path leads into where there was nothing. -/
def vacant (path : List UInt8) : Document :=
  if path.head? == some 0x2E then object [] else array []

/-- The document with a change at the end of a path; nothing if it is removed itself. -/
def edited (e : Edit) : (fuel : Nat) → Document → (path : List UInt8) →
    Except PathFault (Option Document)
  | 0, _, _ => .error .malformed
  | _ + 1, d, [] => .ok (e.instead d)
  | fuel + 1, d, path => do
    let (s, rest) ← d.step path
    let change (old : Option Document) : Except PathFault (Option Document) := do
      match old, e.fresh? with
      | some d, _ => edited e fuel d rest
      | none, none => throw .missing
      | none, some new => if rest.isEmpty then return some new else edited e fuel (vacant rest) rest
    match s, d with
    | .label l, object parts => return some (object (← alterPart l change parts))
    | .item n, array items =>
      if items.length < n then throw .missing
      return some (array (← alterItem change n items))
    | _, _ => throw .missing

def edit (d : Document) (e : Edit) (path : List UInt8) : Except PathFault (Option Document) :=
  edited e (path.length + 1) d path

/-! ### Patches -/

mutual

/-- The document with the values of a patch beside their labels. A null takes a label away. -/
def merged (d : Document) : (patch : Document) → Document
  | object parts => object (mergedParts (match d with
    | object old => old
    | _ => []) parts)
  | patch => patch

def mergedParts (old : List Document) : (patch : List Document) → List Document
  | text spelling s :: d :: rest =>
    let change (old : Option Document) : Option Document := match d with
      | null => none
      | d => some (merged (old.getD null) d)
    mergedParts (Id.run (alterPart (spelling, s) (pure ∘ change) old)) rest
  | _ => old

end

end Document

end Conform.Sqlite
