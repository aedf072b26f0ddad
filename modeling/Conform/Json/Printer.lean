import Conform.Json.Basic

/-! JSON as indented text: two spaces a level, one member or item a line, empty brackets closed at
once. Only the quotation mark, the backslash and control characters are escaped. -/
namespace Conform.Json

def hexDigit (n : Nat) : Char :=
  if n < 10 then Char.ofNat (48 + n) else Char.ofNat (87 + n)

/-- The written form of one character of a string. -/
def escapeChar (c : Char) : List Char :=
  match c with
  | '"' => ['\\', '"']
  | '\\' => ['\\', '\\']
  | '\n' => ['\\', 'n']
  | '\r' => ['\\', 'r']
  | '\t' => ['\\', 't']
  | '\x08' => ['\\', 'b']
  | '\x0c' => ['\\', 'f']
  | c =>
    if c.toNat < 0x20 then
      ['\\', 'u', '0', '0', hexDigit (c.toNat / 16), hexDigit (c.toNat % 16)]
    else [c]

def quote (s : String) : List Char := '"' :: s.toList.flatMap escapeChar ++ ['"']

/-- A line break and the indentation of `depth` levels. -/
def newline (depth : Nat) : List Char := '\n' :: List.replicate (2 * depth) ' '

mutual

/-- The text of a value whose first line is already indented by `depth` levels. -/
def pretty (depth : Nat) : Json → List Char
  | .null => ['n', 'u', 'l', 'l']
  | .bool true => ['t', 'r', 'u', 'e']
  | .bool false => ['f', 'a', 'l', 's', 'e']
  | .number spelling => spelling
  | .string s => quote s
  | .misspelt spelling => spelling
  | .array [] => ['[', ']']
  | .array (item :: items) =>
    '[' :: newline (depth + 1) ++ pretty (depth + 1) item ++ prettyItems (depth + 1) items ++
      newline depth ++ [']']
  | .object [] => ['\x7b', '\x7d']
  | .object (member :: members) =>
    '\x7b' :: newline (depth + 1) ++ prettyMember (depth + 1) member ++
      prettyMembers (depth + 1) members ++ newline depth ++ ['\x7d']

def prettyItems (depth : Nat) : List Json → List Char
  | [] => []
  | item :: items => ',' :: newline depth ++ pretty depth item ++ prettyItems depth items

def prettyMember (depth : Nat) : String × Json → List Char
  | (key, value) => quote key ++ [':', ' '] ++ pretty depth value

def prettyMembers (depth : Nat) : List (String × Json) → List Char
  | [] => []
  | member :: members =>
    ',' :: newline depth ++ prettyMember depth member ++ prettyMembers depth members

end

/-- The value as a document. -/
def document (j : Json) : String := String.ofList (j.pretty 0)

end Conform.Json
