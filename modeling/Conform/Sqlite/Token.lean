import Conform.Text.Percent

/-! Tokens of SQL text. A token keeps its own text and, apart from it, the white space and comments
before it, so that any run of tokens can be written out again as it was. -/
namespace Conform.Sqlite

/-- White space between tokens. A vertical tab is white space only after other white space. -/
def isGap (c : Char) : Bool :=
  c == ' ' || c == '\t' || c == '\n' || c == '\x0c' || c == '\r'

/-- White space within values. -/
def isSpace (c : Char) : Bool := isGap c || c == '\x0b'

/-- Bare words hold letters, digits and everything beyond ASCII. -/
def isBareChar (c : Char) : Bool :=
  c.isAlphanum || c == '_' || c == '$' || 0x80 ≤ c.toNat

inductive TokenKind where
  /-- A bare word, in small letters. -/
  | word (small : String)
  /-- A name in quotes, given without them. -/
  | quoted (name : String)
  /-- A text between single quotes, given without them. -/
  | text (value : String)
  /-- Bytes in hexadecimal digits. -/
  | blob (digits : List Char)
  /-- Digits alone. -/
  | integer
  /-- A number with a point or an exponent. -/
  | decimal
  /-- A hexadecimal number, or any number with underscores between its digits. -/
  | spacedNumber
  | symbol (spelling : String)
  /-- What is no token, such as a quote that is never closed. -/
  | unreadable
  deriving DecidableEq, Repr, Inhabited

structure Token where
  kind : TokenKind
  /-- White space and comments before the token. -/
  gap : List Char
  text : List Char
  deriving DecidableEq, Repr, Inhabited

/-- The length of a text up to and with its closing quote. A quote written twice does not close. -/
def quotedLength (quote : Char) : List Char → Option Nat
  | [] => none
  | c :: d :: rest =>
    if c ≠ quote then (quotedLength quote (d :: rest)).map (· + 1)
    else if d = quote then (quotedLength quote rest).map (· + 2)
    else some 1
  | [c] => if c = quote then some 1 else none

/-- The inside of a quoted text that follows its opening quote, with every doubled quote written
once. -/
def unquote (quote : Char) : List Char → List Char
  | c :: d :: rest =>
    if c ≠ quote then c :: unquote quote (d :: rest)
    else if d = quote then c :: unquote quote rest
    else []
  | [c] => if c ≠ quote then [c] else []
  | [] => []

/-- What follows the end of a block comment. One that never ends takes all. -/
def afterBlockComment : List Char → List Char
  | '*' :: '/' :: rest => rest
  | _ :: rest => afterBlockComment rest
  | [] => []

/-- What follows the white space or the comment at the beginning, if there is any. -/
def afterGap? : List Char → Option (List Char)
  | '-' :: '-' :: rest => some (rest.dropWhile (· != '\n'))
  | '/' :: '*' :: c :: rest => some (afterBlockComment (c :: rest))
  | '\uFEFF' :: rest => some rest
  | c :: rest => if isGap c then some (rest.dropWhile isSpace) else none
  | [] => none

/-- The number of digits and underscores at the beginning, and whether an underscore is among
them. -/
def digitRun (isDigit : Char → Bool) (s : List Char) : Nat × Bool :=
  let run := s.takeWhile fun c => isDigit c || c == '_'
  (run.length, run.contains '_')

/-- The exponent at the beginning of a text, if there is one: its length and whether it has
underscores. -/
def exponentRun : List Char → Option (Nat × Bool)
  | e :: c :: d :: rest =>
    if e != 'e' && e != 'E' then none
    else if c.isDigit then
      let (n, spaced) := digitRun Char.isDigit (c :: d :: rest)
      some (n + 1, spaced)
    else if (c == '+' || c == '-') && d.isDigit then
      let (n, spaced) := digitRun Char.isDigit (d :: rest)
      some (n + 2, spaced)
    else none
  | [e, c] => if (e == 'e' || e == 'E') && c.isDigit then some (2, false) else none
  | _ => none

/-- Kind and length of the number at the beginning of a text. A bare word right after a number
spoils it. -/
def readNumber (s : List Char) : TokenKind × Nat :=
  let (kind, n) := match s with
    | '0' :: x :: d :: rest =>
      if (x == 'x' || x == 'X') && (Text.hexDigit? d).isSome then
        (TokenKind.spacedNumber,
          2 + (digitRun (fun c => (Text.hexDigit? c).isSome) (d :: rest)).1)
      else decimal s
    | _ => decimal s
  let spoiled := (s.drop n).takeWhile isBareChar
  if spoiled.isEmpty then (kind, n) else (.unreadable, n + spoiled.length)
where
  decimal (s : List Char) : TokenKind × Nat :=
    let (whole, spaced) := digitRun Char.isDigit s
    let (point, spaced') := match s.drop whole with
      | '.' :: rest => let (n, spaced) := digitRun Char.isDigit rest; (n + 1, spaced)
      | _ => (0, false)
    let (exponent, spaced'') := (exponentRun (s.drop (whole + point))).getD (0, false)
    let n := whole + point + exponent
    if spaced || spaced' || spaced'' then (.spacedNumber, n)
    else if point = 0 ∧ exponent = 0 then (.integer, n)
    else (.decimal, n)

/-- Symbols of more than one character. -/
def longSymbols : List String := ["->>", "->", "==", "<=", "<>", "<<", ">=", ">>", "!=", "||"]

/-- Symbols of one character. -/
def shortSymbols : List Char :=
  ['(', ')', ';', '+', '-', '*', '/', '%', ',', '&', '~', '=', '<', '>', '|', '.']

def readSymbol (s : List Char) : TokenKind × Nat :=
  match longSymbols.find? fun symbol => symbol.toList.isPrefixOf s with
  | some symbol => (.symbol symbol, symbol.length)
  | none => match s with
    | c :: _ =>
      if shortSymbols.contains c then (.symbol (String.singleton c), 1) else (.unreadable, 1)
    | [] => (.unreadable, 0)

/-- Bytes between single quotes after the letter x. -/
def readBlob (rest : List Char) : TokenKind × Nat :=
  let digits := rest.takeWhile fun c => (Text.hexDigit? c).isSome
  if digits.length % 2 = 0 ∧ (rest.drop digits.length).head? = some '\'' then
    (.blob digits, digits.length + 1)
  else (.unreadable, rest.length)

/-- What kind of token begins with `c`, and how many characters it has. -/
def readToken (c : Char) (rest : List Char) : TokenKind × Nat :=
  if c == '[' then
    let name := rest.takeWhile (· != ']')
    if name.length < rest.length then (.quoted (String.ofList name), name.length + 2)
    else (.unreadable, rest.length + 1)
  else if c == '"' || c == '\'' || c == '\x60' then
    match quotedLength c rest with
    | none => (.unreadable, rest.length + 1)
    | some n =>
      let inside := String.ofList (unquote c rest)
      (if c == '\'' then .text inside else .quoted inside, n + 1)
  else if c.isDigit || (c == '.' && rest.head?.any Char.isDigit) then readNumber (c :: rest)
  else if (c == 'x' || c == 'X') && rest.head? == some '\'' then
    let (kind, n) := readBlob rest.tail
    (kind, n + 2)
  else if isBareChar c && c != '$' then
    let tail := rest.takeWhile isBareChar
    (.word (String.ofList ((c :: tail).map Char.toLower)), tail.length + 1)
  else readSymbol (c :: rest)

/-- The tokens of a text, of which `gap` has been read; `fuel` bounds the number of tokens and
gaps. -/
def tokensFrom : Nat → (gap text : List Char) → List Token
  | 0, _, _ => []
  | _ + 1, _, [] => []
  | fuel + 1, gap, c :: rest =>
    match afterGap? (c :: rest) with
    | some later =>
      tokensFrom fuel (gap ++ (c :: rest).take (rest.length + 1 - later.length)) later
    | none =>
      let (kind, n) := readToken c rest
      ⟨kind, gap, (c :: rest).take n⟩ :: tokensFrom fuel [] ((c :: rest).drop n)

/-- The tokens of a text. White space and comments at its end belong to none of them. -/
def tokens (s : List Char) : List Token := tokensFrom s.length [] s

/-- White space and comments at the end of a text. -/
def gapAfter (s : List Char) : List Char :=
  s.drop ((tokens s).foldl (fun n t => n + t.gap.length + t.text.length) 0)

/-- The text of tokens with everything between them, and nothing before the first. -/
def textOf : List Token → List Char
  | [] => []
  | t :: rest => t.text ++ rest.flatMap fun t => t.gap ++ t.text

end Conform.Sqlite
