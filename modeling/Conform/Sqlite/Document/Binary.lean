import Conform.Sqlite.Document.Reader

/-! Documents as bytes: each has a header with its kind and the size of what follows. -/
namespace Conform.Sqlite

namespace Document

/-- The header of some kind before so many bytes, as short as can be. -/
def header (kind size : Nat) : List UInt8 :=
  let bytes (count : Nat) : List UInt8 :=
    (List.range count).reverse.map fun place => UInt8.ofNat (size >>> (8 * place))
  if size ≤ 11 then [UInt8.ofNat (16 * size + kind)]
  else if size ≤ 0xFF then UInt8.ofNat (0xC0 + kind) :: bytes 1
  else if size ≤ 0xFFFF then UInt8.ofNat (0xD0 + kind) :: bytes 2
  else UInt8.ofNat (0xE0 + kind) :: bytes 4

def framed (kind : Nat) (payload : List UInt8) : List UInt8 :=
  header kind payload.length ++ payload

def Spelling.kind : Spelling → Nat
  | .plain => 7
  | .escaped => 8
  | .loose => 9
  | .raw => 10

mutual

def toBytes : Document → List UInt8
  | null => [0]
  | bool true => [1]
  | bool false => [2]
  | integer isLoose s => framed (if isLoose then 4 else 3) s
  | real isLoose s => framed (if isLoose then 6 else 5) s
  | text spelling s => framed (Spelling.kind spelling) s
  | array items => framed 11 (allBytes items)
  | object parts => framed 12 (allBytes parts)

def allBytes : List Document → List UInt8
  | [] => []
  | d :: rest => toBytes d ++ allBytes rest

end

/-- The number that bytes spell, the greatest place first. -/
def sizeOf (s : List UInt8) : Nat := s.foldl (fun n b => 256 * n + b.toNat) 0

/-- The kind at the beginning of some bytes, what belongs to it, and the rest. -/
def unframed? : List UInt8 → Option (Nat × List UInt8 × List UInt8)
  | [] => none
  | b :: rest =>
    let kind := b.toNat % 16
    let extra := match b.toNat / 16 with
      | 12 => 1
      | 13 => 2
      | 14 => 4
      | 15 => 8
      | _ => 0
    let written := rest.take extra
    let size := if extra = 0 then b.toNat / 16 else sizeOf written
    let payload := (rest.drop extra).take size
    if written.length < extra ∨ payload.length < size then none
    else some (kind, payload, rest.drop (extra + size))

/-- Is the text spelled as it says, with nothing that would end it? -/
def isSpelled (spelling : Spelling) (s : List UInt8) : Bool :=
  let found := (readText 0x22 {} (s.length + 1) (s ++ [0x22])).toOption.filter (·.2.isEmpty)
  match spelling with
  | .plain => found.any (·.1.spelling = .plain)
  | .escaped => found.any fun t => t.1.spelling = .plain || t.1.spelling = .escaped
  | .loose => found.isSome
  | .raw => true

/-- Does the number read back as it is? -/
def isNumeral (d : Document) (s : List UInt8) : Bool :=
  match readNumber { rest := s, stop := s }, d with
  | .document (.integer a _) later, .integer b _ => a == b && later.rest.isEmpty
  | .document (.real a _) later, .real b _ => a == b && later.rest.isEmpty
  | _, _ => false

/-- A document that is no list of others, from its kind and its bytes. -/
def leaf? (kind : Nat) (s : List UInt8) : Option Document :=
  match kind with
  | 0 => if s.isEmpty then some null else none
  | 1 => if s.isEmpty then some (bool true) else none
  | 2 => if s.isEmpty then some (bool false) else none
  | 3 => some (integer false s)
  | 4 => some (integer true s)
  | 5 => some (real false s)
  | 6 => some (real true s)
  | 7 => some (text .plain s)
  | 8 => some (text .escaped s)
  | 9 => some (text .loose s)
  | 10 => some (text .raw s)
  | _ => none

/-- Is there a text in every other place, from the first one? -/
def areLabelled : List Document → Bool
  | [] => true
  | [_] => false
  | label :: _ :: rest => isLabel label && areLabelled rest

mutual

/-- The document of some kind that some bytes belong to; `fuel` bounds the number of documents in
it, each counted once as an item and once by itself. -/
def ofPayload? : (fuel kind : Nat) → List UInt8 → Option Document
  | 0, _, _ => none
  | fuel + 1, 11, s => array <$> itemsOf? fuel s
  | fuel + 1, 12, s => do
    let parts ← itemsOf? fuel s
    if areLabelled parts then return object parts else failure
  | _ + 1, kind, s => leaf? kind s

/-- The documents one after the other. -/
def itemsOf? : (fuel : Nat) → List UInt8 → Option (List Document)
  | 0, s => if s.isEmpty then some [] else none
  | fuel + 1, s =>
    if s.isEmpty then some []
    else do
      let (kind, payload, rest) ← unframed? s
      let d ← ofPayload? fuel kind payload
      return d :: (← itemsOf? fuel rest)

end

/-- The document that some bytes are, without regard to how its texts and numbers are spelled. -/
def ofBytes? (s : List UInt8) : Option Document := do
  let (kind, payload, rest) ← unframed? s
  if rest.isEmpty then ofPayload? (2 * s.length + 1) kind payload else failure

mutual

/-- Are all texts and numbers spelled as they say? -/
def isSound : Document → Bool
  | null | bool _ => true
  | integer isLoose s => isNumeral (integer isLoose s) s
  | real isLoose s => isNumeral (real isLoose s) s
  | text spelling s => isSpelled spelling s
  | array items => areSound items
  | object parts => areSound parts

def areSound : List Document → Bool
  | [] => true
  | d :: rest => isSound d && areSound rest

end

/-- Can the bytes be a document, as far as their header tells? -/
def mayBe (s : List UInt8) : Bool :=
  (unframed? s).any fun (kind, payload, rest) =>
    rest.isEmpty && kind ≤ 12 && (2 < kind || payload.isEmpty)

end Document

end Conform.Sqlite
