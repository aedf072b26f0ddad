import Conform.Json.Basic

/-! Strict JSON text. No comments, trailing commas, leading zeros or raw control characters, nothing
after the value, and at most `maxDepth` nested brackets. A lone half of a surrogate pair stands for
no character, and spoils the string or the object in which it is written. -/
namespace Conform.Json

/-- The deepest nesting that is read. -/
def maxDepth : Nat := 127

def isSpace (c : Char) : Bool := c == ' ' || c == '\n' || c == '\t' || c == '\r'

def skipSpace (s : List Char) : List Char := s.dropWhile isSpace

private def hexValue? (c : Char) : Option Nat :=
  if '0' ≤ c ∧ c ≤ '9' then some (c.toNat - 48)
  else if 'a' ≤ c ∧ c ≤ 'f' then some (c.toNat - 87)
  else if 'A' ≤ c ∧ c ≤ 'F' then some (c.toNat - 55)
  else none

/-- The number that four hexadecimal digits spell. -/
def codeUnit? (a b c d : Char) : Option Nat := do
  return (((← hexValue? a) * 16 + (← hexValue? b)) * 16 + (← hexValue? c)) * 16 + (← hexValue? d)

def isHighSurrogate (n : Nat) : Bool := 0xD800 ≤ n && n < 0xDC00

def isLowSurrogate (n : Nat) : Bool := 0xDC00 ≤ n && n < 0xE000

/-- The character that a one-letter escape stands for. -/
def unescape? : Char → Option Char
  | '"' => some '"'
  | '\\' => some '\\'
  | '/' => some '/'
  | 'b' => some '\x08'
  | 'f' => some '\x0c'
  | 'n' => some '\n'
  | 'r' => some '\r'
  | 't' => some '\t'
  | _ => none

/-- The character that the code units of an escape stand for, and what follows the escape. The first
half of a surrogate pair needs the other one right after it. -/
def escapedChar? (unit : Nat) (rest : List Char) : Option Char × List Char :=
  if isLowSurrogate unit then (none, rest)
  else if isHighSurrogate unit then
    match rest with
    | '\\' :: 'u' :: a :: b :: c :: d :: later =>
      match codeUnit? a b c d with
      | some low =>
        if isLowSurrogate low then
          (some (Char.ofNat (0x10000 + (unit - 0xD800) * 0x400 + (low - 0xDC00))), later)
        else (none, rest)
      | none => (none, rest)
    | _ => (none, rest)
  else (some (Char.ofNat unit), rest)

theorem escapedChar?_length_le (unit : Nat) (rest : List Char) :
    (escapedChar? unit rest).2.length ≤ rest.length := by
  unfold escapedChar?
  split
  · exact Nat.le_refl _
  · split
    · split
      · split
        · split
          · simp only [List.length_cons]; omega
          · exact Nat.le_refl _
        · exact Nat.le_refl _
      · exact Nat.le_refl _
    · exact Nat.le_refl _

/-- A string after its opening quotation mark, and what follows its closing one. Its text is missing
if an escape in it stands for no character. -/
def stringBody : List Char → Option (Option (List Char) × List Char)
  | [] => none
  | '"' :: rest => some (some [], rest)
  | '\\' :: 'u' :: a :: b :: c :: d :: rest =>
    match codeUnit? a b c d with
    | none => none
    | some unit =>
      (stringBody (escapedChar? unit rest).2).map fun r =>
        ((escapedChar? unit rest).1.bind fun e => r.1.map (e :: ·), r.2)
  | '\\' :: c :: rest =>
    match unescape? c with
    | some d => (stringBody rest).map fun r => (r.1.map (d :: ·), r.2)
    | none => none
  | c :: rest =>
    if c == '\\' || c.toNat < 0x20 then none
    else (stringBody rest).map fun r => (r.1.map (c :: ·), r.2)
termination_by s => s.length
decreasing_by
  all_goals simp only [List.length_cons]
  all_goals first
    | omega
    | have := escapedChar?_length_le unit rest
      omega

/-- One digit or more. -/
def digits (s : List Char) : Option (List Char × List Char) :=
  let d := s.takeWhile Char.isDigit
  if d.isEmpty then none else some (d, s.dropWhile Char.isDigit)

private def wholePart : List Char → Option (List Char × List Char)
  | '0' :: rest => some (['0'], rest)
  | s => digits s

private def fraction : List Char → Option (List Char × List Char)
  | '.' :: rest => (digits rest).map fun r => ('.' :: r.1, r.2)
  | s => some ([], s)

private def exponent : List Char → Option (List Char × List Char)
  | e :: s =>
    if e == 'e' || e == 'E' then
      match s with
      | sign :: rest =>
        if sign == '+' || sign == '-' then (digits rest).map fun r => (e :: sign :: r.1, r.2)
        else (digits s).map fun r => (e :: r.1, r.2)
      | [] => none
    else some ([], e :: s)
  | [] => some ([], [])

/-- A number as it is spelled. -/
def numeral (s : List Char) : Option (List Char × List Char) := do
  let (sign, s) := match s with
    | '-' :: rest => (['-'], rest)
    | _ => ([], s)
  let (whole, s) ← wholePart s
  let (part, s) ← fraction s
  let (power, s) ← exponent s
  return (sign ++ whole ++ part ++ power, s)

/-- A value that has its parts, or else keeps the text that it takes. -/
def orMisspelt (f : α → Json) (s : List Char) : Option α × List Char → Json × List Char
  | (some a, rest) => (f a, rest)
  | (none, rest) => (.misspelt (s.take (s.length - rest.length)), rest)

mutual

/-- A value at the head of the text, and what follows it. Every step but the last is made on a
shorter text, so the length of the text and one more is fuel enough. -/
def value : (fuel depth : Nat) → List Char → Option (Json × List Char)
  | 0, _, _ => none
  | fuel + 1, depth, s =>
    match skipSpace s with
    | 'n' :: 'u' :: 'l' :: 'l' :: rest => some (.null, rest)
    | 't' :: 'r' :: 'u' :: 'e' :: rest => some (.bool true, rest)
    | 'f' :: 'a' :: 'l' :: 's' :: 'e' :: rest => some (.bool false, rest)
    | '"' :: rest =>
      (stringBody rest).map (orMisspelt (.string ∘ String.ofList) ('"' :: rest))
    | '[' :: rest =>
      match depth with
      | 0 => none
      | depth + 1 =>
        match skipSpace rest with
        | ']' :: rest => some (.array [], rest)
        | rest => (items fuel depth rest).map fun r => (.array r.1, r.2)
    | '\x7b' :: rest =>
      match depth with
      | 0 => none
      | depth + 1 =>
        match skipSpace rest with
        | '\x7d' :: rest => some (.object [], rest)
        | inside => (members fuel depth inside).map (orMisspelt .object ('\x7b' :: rest))
    | s => (numeral s).map fun r => (.number r.1, r.2)

/-- The items of an array up to its closing bracket; at least one. -/
def items : (fuel depth : Nat) → List Char → Option (List Json × List Char)
  | 0, _, _ => none
  | fuel + 1, depth, s =>
    match value fuel depth s with
    | none => none
    | some (item, rest) =>
      match skipSpace rest with
      | ']' :: rest => some ([item], rest)
      | ',' :: rest => (items fuel depth rest).map fun r => (item :: r.1, r.2)
      | _ => none

/-- The members of an object up to its closing bracket; at least one. They are missing if a key
is. -/
def members : (fuel depth : Nat) → List Char → Option (Option (List (String × Json)) × List Char)
  | 0, _, _ => none
  | fuel + 1, depth, s =>
    match skipSpace s with
    | '"' :: rest =>
      match stringBody rest with
      | none => none
      | some (key, rest) =>
        match skipSpace rest with
        | ':' :: rest =>
          match value fuel depth rest with
          | none => none
          | some (v, rest) =>
            let member := key.map fun key => (String.ofList key, v)
            match skipSpace rest with
            | '\x7d' :: rest => some (member.map ([·]), rest)
            | ',' :: rest => (members fuel depth rest).map fun r =>
              (member.bind fun m => r.1.map (m :: ·), r.2)
            | _ => none
        | _ => none
    | _ => none

end

/-- The one value of a document. -/
def parse? (text : String) : Option Json :=
  let s := text.toList
  match value (2 * s.length + 2) maxDepth s with
  | some (j, rest) => if (skipSpace rest).isEmpty then some j else none
  | none => none

end Conform.Json
