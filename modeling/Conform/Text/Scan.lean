/-! Searching a text from the left: what follows a fixed beginning, what stands before a closing
character, and the first place where a reader succeeds. -/
namespace Conform.Text

/-- What follows `start` in a text that begins with it. -/
def after : List Char → List Char → Option (List Char)
  | [], s => some s
  | _ :: _, [] => none
  | c :: start, d :: s => if c = d then after start s else none

/-- What stands before the first `stop`, if there is one. -/
def upTo (stop : Char) (s : List Char) : Option (List Char) :=
  if s.contains stop then some (s.takeWhile (· != stop)) else none

/-- What stands before the last `stop`, if there is one. -/
def upToLast (stop : Char) (s : List Char) : Option (List Char) :=
  if s.contains stop then some ((s.reverse.dropWhile (· != stop)).drop 1).reverse else none

/-- What `read` finds at the first place of the text where it finds something. -/
def firstIn (read : List Char → Option α) : List Char → Option α
  | [] => read []
  | c :: rest => match read (c :: rest) with
    | some found => some found
    | none => firstIn read rest

/-- Does `part` stand anywhere in the text? -/
def contains (part s : List Char) : Bool := (firstIn (after part) s).isSome

/-- The number that decimal digits spell. -/
def digitsValue (digits : List Char) : Nat :=
  digits.foldl (fun n c => 10 * n + (c.toNat - '0'.toNat)) 0

/-- The longest beginning and end cut off with `drop` on both. -/
def dropEndWhile (p : Char → Bool) (s : List Char) : List Char :=
  (s.reverse.dropWhile p).reverse

end Conform.Text
