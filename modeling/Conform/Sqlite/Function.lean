import Conform.Sqlite.Function.Document
import Conform.Sqlite.Function.Moment
import Conform.Sqlite.Function.Number
import Conform.Sqlite.Like

/-! The functions of one row. -/
namespace Conform.Sqlite

/-- How many arguments a function takes: at least the first number, and at most the second. -/
structure Arity where
  least : Nat
  most : Option Nat

/-- Functions that may not be part of any definition. -/
def barredFunctions : List String := ["fts3_tokenizer", "load_extension"]

/-- Functions of full-text queries and of spatial indexes, which fail wherever a row is made. -/
def queryFunctions : List String := ["bm25", "highlight", "match", "matchinfo", "offsets",
  "optimize", "rtreecheck", "snippet"]

/-- The functions of one row. -/
def functions : List (String × Arity) :=
  let upTo (least most : Nat) (names : List String) := names.map (·, Arity.mk least (some most))
  let atLeast (least : Nat) (names : List String) := names.map (·, Arity.mk least none)
  upTo 0 0 ["changes", "current_date", "current_time", "current_timestamp", "fts5_source_id",
    "last_insert_rowid", "random", "sqlite_source_id", "sqlite_version", "total_changes"] ++
  upTo 1 1 ["abs", "fts5", "hex", "json", "json_error_position", "json_quote", "jsonb", "length",
    "likely", "lower", "octet_length", "offsets", "optimize", "quote", "randomblob", "rtreedepth",
    "sign", "soundex", "sqlite_compileoption_get", "sqlite_compileoption_used", "subtype",
    "typeof", "unicode", "unlikely", "upper", "zeroblob"] ++
  upTo 1 2 ["fts3_tokenizer", "json_array_length", "json_pretty", "json_type", "json_valid",
    "load_extension", "ltrim", "matchinfo", "round", "rtrim", "trim", "unhex"] ++
  upTo 2 2 ["->", "->>", "glob", "ifnull", "instr", "json_patch", "jsonb_patch", "likelihood",
    "match", "nullif", "rtreenode", "sqlite_log", "timediff"] ++
  upTo 2 3 ["like", "substr", "substring"] ++
  upTo 3 3 ["iif", "replace"] ++
  atLeast 0 ["bm25", "char", "date", "datetime", "format", "highlight", "json_array",
    "json_extract", "json_insert", "json_object", "json_remove", "json_replace", "json_set",
    "jsonb_array", "jsonb_extract", "jsonb_insert", "jsonb_object", "jsonb_remove",
    "jsonb_replace", "jsonb_set", "julianday", "printf", "rtreecheck", "snippet", "strftime",
    "time", "unixepoch"] ++
  atLeast 1 ["concat"] ++
  atLeast 2 ["coalesce", "concat_ws", "max", "min"]

/-- The functions that compare their arguments. -/
def comparingFunctions : List String := ["max", "min", "nullif"]

/-- The functions whose value does not change while a statement is executed, but may change
later. -/
def slowFunctions : List String := ["current_date", "current_time", "current_timestamp",
  "sqlite_compileoption_get", "sqlite_compileoption_used", "sqlite_source_id", "sqlite_version"]

/-- The functions whose value depends on more than their arguments. -/
def fickleFunctions : List String := barredFunctions ++ queryFunctions ++ slowFunctions ++
  ["changes", "fts5", "last_insert_rowid", "random", "randomblob", "rtreedepth", "rtreenode",
    "total_changes"]

/-- Has the function one value for given arguments while a statement is executed? -/
def isSteady (name : String) : Bool :=
  slowFunctions.contains name || !fickleFunctions.contains name

/-- Can the function, named in small letters, be called with so many arguments? -/
def isCallable (name : String) (arguments : Nat) : Bool :=
  (functions.lookup name).any fun arity =>
    arity.least ≤ arguments && arity.most.all (arguments ≤ ·)

namespace Function

open Text (codes)

/-- The value as a text in quotes, as it could be written in a statement. -/
def quoted : Value → List Char
  | .null => "NULL".toList
  | .integer n => (toString n).toList
  | .real x => Value.exactText x
  | .text s => '\'' :: (Text.ofBytes (Bytes.upToZero s)).flatMap
      (fun c => if c = '\'' then [c, c] else [c]) ++ ['\'']
  | .blob b => "X'".toList ++ Text.ofBytes (Bytes.hexText b) ++ ['\'']

def kind : Value → String
  | .null => "null"
  | .integer _ => "integer"
  | .real _ => "real"
  | .text _ => "text"
  | .blob _ => "blob"

/-- Does a value match a pattern? -/
def matching (test : List Nat → List Nat → Bool) (pattern v : Value) : Answer :=
  if longestPattern < pattern.bytes.length then .error .patternTooLong
  else match pattern.text?, v.text? with
    | some p, some s => .truth (test (codes p) (codes s))
    | _, _ => .null

/-- Does a value match a pattern with a character for escapes? -/
def matchingWith (pattern v escape : Value) : Answer :=
  if longestPattern < pattern.bytes.length then .error .patternTooLong
  else match (escape.text?).map codes with
    | none => .null
    | some [c] => matching (likeWith (some c)) pattern v
    | some _ => .error .escapeNotCharacter

/-- A part of a text or of bytes. -/
def partOf (v start : Value) (length : Option Value) : Answer :=
  let word (v : Value) : Int := v.asInteger.bmod 0x100000000
  match v with
  | .blob b =>
    if b.isEmpty then .null
    else .value (.blob (Bytes.slice b (word start) (length.map word)))
  | v => .text (Bytes.slice (Text.characters (Bytes.upToZero v.bytes)) (word start)
      (length.map word)).flatten

/-- Bytes that all are zero. -/
def zeros (n : Int) : Answer :=
  if (Directive.longestText : Int) < n then .error .tooBig
  else .value (.blob (List.replicate n.toNat 0))

/-- Functions that are null as soon as an argument is. -/
def strict : String → List Value → Answer
  | "instr", [v, w] => match v, w with
    | .blob a, .blob b => .integer (Bytes.placeOf false b a)
    | v, w => .integer (Bytes.placeOf true w.bytes v.bytes)
  | "length", [v] => match v with
    | .text s => .integer (Bytes.length s)
    | v => .integer v.bytes.length
  | "lower", [v] => .text (v.bytes.map smallByte)
  | "upper", [v] => .text (v.bytes.map capitalByte)
  | "ltrim", v :: dropped => trim true false v dropped
  | "rtrim", v :: dropped => trim false true v dropped
  | "trim", v :: dropped => trim true true v dropped
  | "octet_length", [v] => .integer v.bytes.length
  | "round", [v] => .real (Value.rounded v.asReal 0)
  | "round", [v, n] => .real (Value.rounded v.asReal (min 30 n.asInteger).toNat)
  | "sign", [v] => .value v.sign
  | "substr", v :: start :: length | "substring", v :: start :: length =>
    partOf v start length.head?
  | "unhex", v :: ignored =>
    let s := Bytes.upToZero v.bytes
    let ignored := (ignored.head?.map fun w => codes w.bytes).getD []
    .value (((Bytes.ofHex? ignored (s.length + 1) s).map .blob).getD .null)
  | "unicode", [v] => .value (((codes v.bytes).head?).elim .null fun c => .integer c)
  | _, _ => .null
where
  trim (atStart atEnd : Bool) (v : Value) (dropped : List Value) : Answer :=
    .text (Bytes.trimmed atStart atEnd v.bytes ((dropped.head?.map (·.bytes)).getD [0x20]))

/-- Functions that take nulls as any other value. -/
def total : String → List Value → Answer
  | "abs", [v] => v.magnitude
  | "char", vs => .text (vs.flatMap fun v =>
      let n := v.asInteger
      Text.encoded (if n < 0 ∨ 0x10FFFF < n then Text.replacementCode else n.toNat))
  | "concat", vs => .text (vs.flatMap (·.bytes))
  | "concat_ws", separator :: vs => match separator.text? with
    | none => .null
    | some s => .text (s.intercalate ((vs.map (·.bytes)).filter (!·.isEmpty)))
  | "format", pattern :: vs | "printf", pattern :: vs => match pattern.text? with
    | none => .null
    | some p => match format p vs with
      | some s => .text s
      | none => .null
  | "glob", [p, v] => matching (fun p s => glob (p.length + 1) p s) p v
  | "like", [p, v] => matching like p v
  | "like", [p, v, escape] => matchingWith p v escape
  | "hex", [v] => .text (Bytes.hexText v.bytes)
  | "quote", [v] => .text ((quoted v).map fun c => UInt8.ofNat c.toNat)
  | "replace", [v, part, w] => match v.text?, part.text? with
    | some s, some part =>
      if (Bytes.upToZero part).isEmpty then .text s
      else match w.text? with
        | some t => .text (Bytes.replaceAll part t s)
        | none => .null
    | _, _ => .null
  | "soundex", [v] => .chars (Bytes.soundex v.bytes)
  | "typeof", [v] => .chars (kind v).toList
  | "zeroblob", [v] => zeros v.asInteger
  | "rtreedepth", [.blob (a :: b :: _)] => .integer (256 * a.toNat + b.toNat)
  | "rtreedepth", _ => .error (.outOfPlace "rtreedepth")
  | _, _ => .null

/-- What identifies the source of the database. -/
def sourceId : String := "2024-05-23 13:25:27 " ++
  "96c92aba00c8375bc32fafcdf12429c58bd8aabfcadab6683e35bbb9cdebf19e"

/-- Functions of more than their arguments, as they answer before any change. -/
def surroundings : String → List Value → Answer
  | "changes", [] | "last_insert_rowid", [] | "total_changes", [] => .integer 0
  | "random", [] => .integer 1
  | "randomblob", [v] => zeros (max 1 v.asInteger)
  | "sqlite_version", [] => .chars "3.46.0".toList
  | "sqlite_source_id", [] => .chars sourceId.toList
  | "fts5_source_id", [] => .chars ("fts5: " ++ sourceId).toList
  | "sqlite_compileoption_used", [v] => if v.isNull then .null else .integer 0
  | _, _ => .null

def strictFunctions : List String := ["instr", "length", "lower", "ltrim", "octet_length", "round",
  "rtrim", "sign", "substr", "substring", "trim", "unhex", "unicode", "upper"]

def surroundingFunctions : List String := ["changes", "fts5_source_id", "last_insert_rowid",
  "random", "randomblob", "sqlite_compileoption_get", "sqlite_compileoption_used",
  "sqlite_source_id", "sqlite_version", "total_changes"]

def momentFunctions : List String := ["date", "datetime", "julianday", "strftime", "time",
  "timediff", "unixepoch"]

/-- The word for a moment that is never out of place. -/
def presentWords : List (String × String) := [("current_date", "date"), ("current_time", "time"),
  ("current_timestamp", "datetime")]

/-- The instant that counts as the present. -/
def presentInstant : Int := 212647680000000

/-- What a function gives, by its name in small letters. `present` is the present, unless nothing
may depend on it. -/
def apply (present : Option Int) (c : Collation) (name : String) (vs : List Computed) : Answer :=
  let values := vs.map (·.value)
  if strictFunctions.contains name then
    if values.any (·.isNull) then .null else strict name values
  else if name == "max" || name == "min" then
    if values.any (·.isNull) then .null
    else .ok (if name == "max" then Value.greatest c vs else Value.least c vs)
  else if name == "nullif" then
    match vs with
    | [v, w] => if c.compare v.value w.value = .eq then .null else .ok v
    | _ => .null
  else if name == "subtype" then .integer (if vs.any (·.isDocument) then 74 else 0)
  else if momentFunctions.contains name then Moment.toAnswer (Moment.answer present name values)
  else if let some function := presentWords.lookup name then
    Moment.toAnswer (Moment.answer (some presentInstant) function [])
  else if queryFunctions.contains name || barredFunctions.contains name then
    .error (.outOfPlace name)
  else if surroundingFunctions.contains name then surroundings name values
  else if name.startsWith "jsonb" then Document.call true ("json" ++ (name.drop 5).toString) vs
  else if name.startsWith "json" || name.startsWith "->" then Document.call false name vs
  else total name values

end Function

end Conform.Sqlite
