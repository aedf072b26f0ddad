import Conform.Sqlite.Keyword

/-! Reading tokens one after the other. -/
namespace Conform.Sqlite

/-- Something read from the first tokens of a list, which leaves the others. -/
abbrev Reader := StateT (List Token) Option

namespace Reader

def token : Reader Token := fun ts => match ts with
  | t :: rest => some (t, rest)
  | [] => none

/-- What `f` makes of the next token. -/
def tokenAs (f : Token → Option α) : Reader α := fun ts => match ts with
  | t :: rest => (f t).map (·, rest)
  | [] => none

/-- Are these the next words? -/
def areNext : List String → List Token → Bool
  | [], _ => true
  | _ :: _, [] => false
  | w :: words, t :: ts => t.isWord w && areNext words ts

/-- Reads the words if they come next, and tells whether they did. -/
def tryWords (words : List String) : Reader Bool := fun ts =>
  if areNext words ts then some (true, ts.drop words.length) else some (false, ts)

def words (words : List String) : Reader Unit := do
  if !(← tryWords words) then failure

/-- Reads the symbol if it comes next, and tells whether it did. -/
def trySymbol (spelling : String) : Reader Bool := fun ts => match ts with
  | t :: rest => if t.isSymbol spelling then some (true, rest) else some (false, ts)
  | [] => some (false, [])

def symbol (spelling : String) : Reader Unit := do
  if !(← trySymbol spelling) then failure

/-- Things with commas between, at least one. `fuel` bounds their number. -/
def commaList (item : Reader α) : (fuel : Nat) → Reader (List α)
  | 0 => failure
  | fuel + 1 => do
    let first ← item
    if ← trySymbol "," then return first :: (← commaList item fuel) else return [first]

/-- The tokens that `r` reads. -/
def span (r : Reader α) : Reader (α × List Token) := fun ts => do
  let (a, rest) ← r ts
  return ((a, ts.take (ts.length - rest.length)), rest)

end Reader

/-- The words of a type, and perhaps a size in parentheses. -/
def readType : Reader (List Char) := do
  let (_, read) ← Reader.span words
  let (_, size) ← Reader.span (if read.isEmpty then pure () else sizeIfAny)
  return textOf (read ++ size)
where
  words : Reader Unit := fun ts => some ((), ts.dropWhile fun t => t.typeWord?.isSome)
  signed : Reader Unit := do
    if !(← Reader.trySymbol "-") then
      let _ ← Reader.trySymbol "+"
    Reader.tokenAs fun t =>
      if [.integer, .decimal, .spacedNumber].contains t.kind && !t.text.contains '_' then some ()
      else none
  sizeIfAny : Reader Unit := do
    if ← Reader.trySymbol "(" then
      signed
      if ← Reader.trySymbol "," then signed
      Reader.symbol ")"

end Conform.Sqlite
