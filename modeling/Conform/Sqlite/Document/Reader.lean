import Conform.Sqlite.Document

/-! Reading documents. Besides plain JSON many loose forms are understood: comments, single quotes,
names as labels, commas at the end, hexadecimal numbers. Whether any was met is kept. -/
namespace Conform.Sqlite

namespace Document

/-- What is left to be read, and whether a loose form has been met. -/
structure Scan where
  rest : List UInt8
  isLoose : Bool := false
  /-- What was left at the last stop: a mark that was no neighbour of what came before it, or a
  label without quotes. -/
  stop : List UInt8

/-- What comes next. -/
inductive Found where
  | document (d : Document) (s : Scan)
  /-- A comma, a colon, or a bracket that closes. -/
  | mark (b : UInt8) (s : Scan)
  /-- There is nothing more. -/
  | nothing
  /-- No document can go on like this. -/
  | fault (rest : List UInt8)

/-- The deepest nesting that is read. -/
def maxDepth : Nat := 1000

def isPlainSpace (b : UInt8) : Bool := b == 0x20 || b == 0x09 || b == 0x0A || b == 0x0D

def afterComment : List UInt8 → Option (List UInt8)
  | 0x2A :: 0x2F :: rest => some rest
  | _ :: rest => afterComment rest
  | [] => none

/-- What follows the end of a line. -/
def afterLine : List UInt8 → List UInt8
  | [] => []
  | 0x0A :: rest | 0x0D :: rest => rest
  | 0xE2 :: 0x80 :: 0xA8 :: rest | 0xE2 :: 0x80 :: 0xA9 :: rest => rest
  | _ :: rest => afterLine rest

/-- What follows a white space of any kind, or a comment. -/
def afterSpace? : List UInt8 → Option (List UInt8)
  | 0x2F :: 0x2A :: b :: rest => afterComment (b :: rest)
  | 0x2F :: 0x2F :: rest => some (afterLine rest)
  | 0xC2 :: 0xA0 :: rest => some rest
  | 0xE1 :: 0x9A :: 0x80 :: rest => some rest
  | 0xE2 :: 0x81 :: 0x9F :: rest => some rest
  | 0xE2 :: 0x80 :: b :: rest =>
    if (0x80 ≤ b && b ≤ 0x8A) || b == 0xA8 || b == 0xA9 || b == 0xAF then some rest else none
  | 0xE3 :: 0x80 :: 0x80 :: rest => some rest
  | 0xEF :: 0xBB :: 0xBF :: rest => some rest
  | b :: rest => if b == 0x20 || (0x09 ≤ b && b ≤ 0x0D) then some rest else none
  | [] => none

/-- What follows all white space and comments; `fuel` is at least the length of the text. -/
def skipSpace : (fuel : Nat) → List UInt8 → List UInt8
  | 0, s => s
  | fuel + 1, s => match afterSpace? s with
    | some rest => skipSpace fuel rest
    | none => s

/-- Skips white space, and tells whether there was any but that of plain JSON. -/
def Scan.skipped (s : Scan) : Scan :=
  let rest := s.rest.dropWhile isPlainSpace
  match afterSpace? rest with
  | none => { s with rest }
  | some later => { s with rest := skipSpace later.length later, isLoose := true }

/-- What follows a mark right behind what came before, but for plain white space. -/
def Scan.afterNear? (s : Scan) (mark : UInt8) : Option Scan :=
  match s.rest.dropWhile isPlainSpace with
  | b :: rest => if b == mark then some { s with rest } else none
  | [] => none

/-! ### Texts -/

/-- An escape after its backslash: its length, and whether it is of plain JSON. -/
def escapeLength? : List UInt8 → Option (Nat × Bool)
  | 0x75 :: a :: b :: c :: d :: _ =>
    if [a, b, c, d].all isHexByte then some (5, true) else none
  | 0x78 :: a :: b :: _ => if [a, b].all isHexByte then some (3, false) else none
  | 0x0D :: 0x0A :: _ => some (2, false)
  | b :: rest =>
    if "\"\\/bfnrt".toList.contains (Char.ofNat b.toNat) then some (1, true)
    else if "'0v\n\r".toList.contains (Char.ofNat b.toNat) then some (1, false)
    else if startsSeparator (b :: rest) then some (3, false)
    else none
  | [] => none

/-- A text that has been read so far, backwards. -/
structure TextScan where
  spelling : Spelling := .plain
  isLoose : Bool := false
  read : List UInt8 := []

/-- Reads a text up to its closing quote, and gives what follows. -/
def readText (quote : UInt8) (t : TextScan) :
    (fuel : Nat) → List UInt8 → Except (List UInt8) (TextScan × List UInt8)
  | 0, s => .error s
  | _ + 1, [] => .error []
  | fuel + 1, b :: rest =>
    if b == quote then .ok ({ t with read := t.read.reverse }, rest)
    else if b == 0x5C then
      match escapeLength? rest with
      | some (n, isPlain) =>
        readText quote {
          spelling := if !isPlain then .loose
            else if t.spelling = .plain then .escaped else t.spelling
          isLoose := t.isLoose || !isPlain
          read := (rest.take n).reverse ++ b :: t.read } fuel (rest.drop n)
      | none => .error rest
    else
      let isControl := b < 0x20
      readText quote {
        spelling := if isControl || b == 0x22 then .loose else t.spelling
        isLoose := t.isLoose || isControl
        read := b :: t.read } fuel rest

/-- Can a label without quotes begin with this? -/
def isNameStart (b : UInt8) : Bool :=
  let c := Char.ofNat b.toNat
  0x80 ≤ b || c.isAlpha || c == '_' || c == '$'

def startsUnit : List UInt8 → Bool
  | 0x5C :: 0x75 :: a :: b :: c :: d :: _ => [a, b, c, d].all isHexByte
  | _ => false

/-- The length of a label without quotes. -/
def nameLength (isFirst : Bool) : List UInt8 → Nat
  | [] => 0
  | b :: rest =>
    let goesOn := if isFirst then isNameStart b
      else (isNameStart b || isDigitByte b) && (afterSpace? (b :: rest)).isNone
    if goesOn || startsUnit (b :: rest) then nameLength false rest + 1 else 0

/-- Does an escape begin anywhere in this name? -/
def hasUnit : List UInt8 → Bool
  | [] => false
  | b :: rest => startsUnit (b :: rest) || hasUnit rest

/-! ### Numbers -/

def isWordByte (b : UInt8) : Bool := (Char.ofNat b.toNat).isAlphanum

/-- Does the text begin with the word, whatever the case of its letters? -/
def startsWord (word : String) (s : List UInt8) : Bool :=
  (s.take word.length).map (fun b => (Char.ofNat b.toNat).toLower) == word.toList

/-- The rest of a number from a place where a digit, a point or an exponent may stand: its bytes,
whether it is real, whether it is loose, and what follows. -/
def readDigits (isReal isLoose hasExponent : Bool) (read : List UInt8) :
    (fuel : Nat) → List UInt8 → Except (List UInt8) (List UInt8 × Bool × Bool × List UInt8)
  | 0, s => .error s
  | fuel + 1, s =>
    let afterPoint := read.head? == some 0x2E
    let isPointFit := (read[1]?).any isDigitByte
    match s with
    | b :: rest =>
      if isDigitByte b then readDigits isReal isLoose hasExponent (b :: read) fuel rest
      else if b == 0x2E then
        if isReal then .error s else readDigits true isLoose hasExponent (b :: read) fuel rest
      else if b == 0x65 || b == 0x45 then
        if (afterPoint && !isPointFit) || hasExponent then .error s
        else
          let (signed, later) : List UInt8 × List UInt8 := match rest with
            | c :: later => if c == 0x2B || c == 0x2D then ([c, b], later) else ([b], rest)
            | [] => ([b], [])
          if later.head?.any isDigitByte then
            readDigits true (isLoose || afterPoint) true (signed ++ read) fuel later
          else .error (if signed.length = 2 then rest else s)
      else finish afterPoint isPointFit s
    | [] => finish afterPoint isPointFit []
where
  finish (afterPoint isPointFit : Bool) (s : List UInt8) :
      Except (List UInt8) (List UInt8 × Bool × Bool × List UInt8) :=
    if read.head? == some 0x2D || (afterPoint && !isPointFit) then .error s
    else .ok (read.reverse, isReal, isLoose || afterPoint, s)

def startsHex : List UInt8 → Bool
  | 0x30 :: x :: d :: _ => (x == 0x78 || x == 0x58) && isHexByte d
  | _ => false

/-- Reads a number, which begins with a sign, a point or a digit. -/
def readNumber (scan : Scan) : Found :=
  let s := scan.rest
  let (sign, unsigned) : List UInt8 × List UInt8 := match s with
    | 0x2D :: rest => ([0x2D], rest)
    | 0x2B :: rest => ([], rest)
    | s => ([], s)
  let isPlus := s.head? == some 0x2B
  let isSigned := isPlus || s.head? == some 0x2D
  let after (d : Document) (isLoose : Bool) (rest : List UInt8) : Found :=
    .document d { scan with rest, isLoose := scan.isLoose || isLoose || isPlus }
  if isSigned && startsWord "inf" unsigned then
    after (.real false (sign ++ ascii "9e999")) true
      (unsigned.drop (if startsWord "infinity" unsigned then 8 else 3))
  else if startsHex unsigned then
    let digits := (unsigned.drop 2).takeWhile isHexByte
    after (.integer true (sign ++ unsigned.take 2 ++ digits)) true
      (unsigned.drop (2 + digits.length))
  else match unsigned with
    | 0x30 :: d :: rest =>
      if isDigitByte d then .fault (if isSigned then unsigned else d :: rest)
      else number sign unsigned isPlus
    | 0x2E :: rest =>
      if isSigned || rest.head?.any isDigitByte then number sign unsigned isPlus else .fault s
    | d :: _ => if isDigitByte d then number sign unsigned isPlus else .fault s
    | [] => .fault s
where
  number (sign unsigned : List UInt8) (isPlus : Bool) : Found :=
    let isPointed := unsigned.head? == some 0x2E
    let (read, rest) : List UInt8 × List UInt8 :=
      if isPointed then (0x2E :: sign, unsigned.drop 1) else (sign, unsigned)
    let most := (rest.takeWhile fun b => isWordByte b || [0x2B, 0x2D, 0x2E].contains b).length
    match readDigits isPointed isPointed false read (most + 1) rest with
    | .ok (spelling, isReal, isLoose, rest) =>
      .document (if isReal then .real isLoose spelling else .integer isLoose spelling)
        { scan with rest, isLoose := scan.isLoose || isLoose || isPlus }
    | .error rest => .fault rest

/-- Words that stand for numbers that are none. -/
def oddWords : List (String × Document) := [
  ("infinity", .real false (ascii "9e999")), ("inf", .real false (ascii "9e999")),
  ("nan", .null), ("qnan", .null), ("snan", .null)]

/-- Reads a word. -/
def readWord (scan : Scan) : Found :=
  let s := scan.rest
  let plain : List (String × Document) := [("true", .bool true), ("false", .bool false),
    ("null", .null)]
  let ends (word : String) : Bool := !(s[word.length]?).any isWordByte
  match plain.find? fun (word, _) => (ascii word).isPrefixOf s && ends word with
  | some (word, d) => .document d { scan with rest := s.drop word.length }
  | none => match oddWords.find? fun (word, _) => startsWord word s && ends word with
    | some (word, d) => .document d { scan with rest := s.drop word.length, isLoose := true }
    | none => .fault s

/-! ### Documents -/

def isLabel : Document → Bool
  | text .. => true
  | _ => false

mutual

/-- What comes next. `fuel` bounds the number of steps, and `depth` the nesting that is left. -/
def next : (fuel depth : Nat) → Scan → Found
  | 0, _, s => .fault s.rest
  | fuel + 1, depth, s =>
    let s := s.skipped
    match s.rest with
    | [] => .nothing
    | b :: rest =>
      if b == 0x7B then
        match depth with
        | 0 => .fault s.rest
        | depth + 1 => match parts fuel depth true { s with rest } with
          | .ok (ds, s) => .document (.object ds) s
          | .error rest => .fault rest
      else if b == 0x5B then
        match depth with
        | 0 => .fault s.rest
        | depth + 1 => match items fuel depth true { s with rest } with
          | .ok (ds, s) => .document (.array ds) s
          | .error rest => .fault rest
      else if b == 0x22 || b == 0x27 then
        match readText b {} (fuel + 1) rest with
        | .ok (t, rest) =>
          .document (.text t.spelling t.read)
            { s with rest, isLoose := s.isLoose || b == 0x27 || t.isLoose }
        | .error rest => .fault rest
      else if [0x7D, 0x5D, 0x2C, 0x3A].contains b then
        .mark b { s with rest, stop := s.rest }
      else if isDigitByte b || b == 0x2D || b == 0x2B || b == 0x2E then readNumber s
      else readWord s

/-- Whether a comma comes next, and not the closing bracket. -/
def separated : (fuel depth : Nat) → (closing : UInt8) → Scan →
    Except (List UInt8) (Bool × Scan)
  | 0, _, _, s => .error s.rest
  | fuel + 1, depth, closing, s =>
    match s.afterNear? 0x2C, s.afterNear? closing with
    | some s, _ => .ok (true, s)
    | none, some s => .ok (false, s)
    | none, none => match next fuel depth s with
      | .mark b later =>
        if b == 0x2C then .ok (true, later)
        else if b == closing then .ok (false, later)
        else .error (s.rest.dropWhile isPlainSpace)
      | _ => .error (s.rest.dropWhile isPlainSpace)

/-- The labels and values up to the closing bracket. -/
def parts : (fuel depth : Nat) → (isFirst : Bool) → Scan →
    Except (List UInt8) (List Document × Scan)
  | 0, _, _, s => .error s.rest
  | fuel + 1, depth, isFirst, s => do
    let name (fault : Option (List UInt8)) : Except (List UInt8) (Option (Document × Scan)) :=
      let rest := skipSpace s.rest.length s.rest
      let n := nameLength true rest
      if n = 0 then throw (fault.getD rest)
      else
        let name := rest.take n
        let spelling := if hasUnit name then .escaped else .plain
        return some (.text spelling name, {
          rest := rest.drop n
          isLoose := true
          stop := fault.getD s.stop })
    let label ← match next fuel depth s with
      | .document d later => if isLabel d then pure (some (d, later)) else throw s.rest
      | .mark b later =>
        if b == 0x7D then return ([], { later with isLoose := later.isLoose || !isFirst })
        else name none
      | .nothing => name none
      | .fault rest => name (some rest)
    match label with
    | none => throw s.rest
    | some (label, s) =>
      let s ← match s.afterNear? 0x3A with
        | some s => pure s
        | none => match next fuel depth s with
          | .mark 0x3A s => pure s
          | .fault rest => throw rest
          | _ => throw (s.rest.dropWhile isPlainSpace)
      match next fuel depth s with
      | .document d s =>
        match separated fuel depth 0x7D s with
        | .ok (true, s) =>
          let (ds, s) ← parts fuel depth false s
          return (label :: d :: ds, s)
        | .ok (false, s) => return ([label, d], s)
        | .error rest => throw rest
      | .fault rest => throw rest
      | _ => throw s.rest

/-- The items up to the closing bracket. -/
def items : (fuel depth : Nat) → (isFirst : Bool) → Scan →
    Except (List UInt8) (List Document × Scan)
  | 0, _, _, s => .error s.rest
  | fuel + 1, depth, isFirst, s =>
    match next fuel depth s with
    | .document d s => match separated fuel depth 0x5D s with
      | .ok (true, s) => do
        let (ds, s) ← items fuel depth false s
        return (d :: ds, s)
      | .ok (false, s) => .ok ([d], s)
      | .error rest => .error rest
    | .mark b later =>
      if b == 0x5D then .ok ([], { later with isLoose := later.isLoose || !isFirst })
      else .error s.rest
    | .nothing => .error s.rest
    | .fault rest => .error rest

end

/-- The document that is all of a text, and whether it has loose forms; or else where it goes
wrong. -/
def read (s : List UInt8) : Except Nat (Document × Bool) :=
  let s := s.takeWhile (· != 0)
  match next (4 * s.length + 4) maxDepth { rest := s, stop := s } with
  | .document d later =>
    let later := later.skipped
    if later.rest.isEmpty then .ok (d, later.isLoose) else .error (s.length - later.stop.length)
  | .fault rest => .error (s.length - rest.length)
  | .mark _ later => .error (s.length - later.rest.length - 1)
  | .nothing => .error 0

end Document

end Conform.Sqlite
