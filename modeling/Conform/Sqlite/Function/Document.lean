import Conform.Sqlite.Document.Binary
import Conform.Sqlite.Document.Path
import Conform.Sqlite.Function.Basic
import Conform.Sqlite.Function.Text

/-! Functions of documents. A document is given as a text or as bytes. -/
namespace Conform.Sqlite

namespace Document

open Text (utf8)

/-- The document that some bytes are, if they begin like one. -/
def ofBlob (b : List UInt8) : Except FunctionFault Document :=
  match ofBytes? b with
  | some d => .ok d
  | none => .error .malformedDocument

/-- The document that a text is, and whether it has loose forms. -/
def ofText (s : List UInt8) : Except FunctionFault (Document × Bool) :=
  (read s).mapError fun _ => .malformedDocument

/-- The document that a first argument is; none of a null. -/
def ofArgument (v : Value) : Except FunctionFault (Option Document) :=
  match v, v.text? with
  | .blob b, _ => if mayBe b then some <$> ofBlob b else (some ·.1) <$> ofText b
  | _, some s => (some ·.1) <$> ofText s
  | _, none => .ok none

/-- The text of a real number within a document. -/
def realSpelling (x : Binary64) : List Char :=
  if x.isInfinite then (if x.isNegative then "-9.0e+999" else "9.0e+999").toList else realText x

/-- The text of a value within a document. -/
def written (c : Computed) : Except FunctionFault (List UInt8) :=
  match c.value with
  | .null => .ok (ascii "null")
  | .integer n => .ok (ascii (toString n))
  | .real x => .ok (utf8 (realSpelling x))
  | .text s => .ok (if c.isDocument then s else quoted s)
  | .blob b => if mayBe b then render <$> ofBlob b else .error .bytesInDocument

/-- A value as a part of a document. -/
def ofComputed (c : Computed) : Except FunctionFault Document :=
  match c.value with
  | .null => .ok null
  | .integer n => .ok (.integer false (ascii (toString n)))
  | .real x => .ok (.real false (utf8
      (if x.isInfinite then (if x.isNegative then "-9e999" else "9e999").toList else realText x)))
  | .text s => if c.isDocument then (·.1) <$> ofText s else .ok (.text .raw s)
  | .blob b => if mayBe b then ofBlob b else .error .bytesInDocument

/-- A document as a function gives it, as bytes or as text. -/
def answer (asBytes : Bool) (d : Document) : Computed :=
  if asBytes then ⟨.blob (toBytes d), false⟩ else ⟨.text (render d), true⟩

/-- The text of a document as a function gives it. -/
def answerText (asBytes : Bool) (s : List UInt8) : Answer :=
  if asBytes then do return answer true (← ofText s).1 else .ok ⟨.text s, true⟩

def joined (opening closing : String) (parts : List (List UInt8)) : List UInt8 :=
  ascii opening ++ [0x2C].intercalate parts ++ ascii closing

/-- Labels and values in turn, as texts. -/
def writtenParts : List Computed → Except FunctionFault (List (List UInt8))
  | ⟨.text label, _⟩ :: v :: rest => do
    return (quoted label ++ 0x3A :: (← written v)) :: (← writtenParts rest)
  | [] => .ok []
  | _ => .error .labelNotText

/-- What follows the dollar sign of a path. -/
def pathOf (s : List UInt8) : Except FunctionFault (List UInt8) :=
  match Bytes.upToZero s with
  | 0x24 :: path => .ok path
  | _ => .error .malformedPath

/-- What is at the end of a path, unless there is nothing. -/
def find (d : Document) (path : List UInt8) : Except FunctionFault (Option Document) :=
  match d.at? path with
  | .ok d => .ok (some d)
  | .error .missing => .ok none
  | .error .malformed => .error .malformedPath

/-- The path that an operand of an arrow stands for: a position, a label, or a path. -/
def arrowPath (v : Value) (s : List UInt8) : List UInt8 :=
  let s := Bytes.upToZero s
  match v, s with
  | _, 0x24 :: path => path
  | .integer _, s => 0x5B :: s ++ [0x5D]
  | _, s =>
    if s.all isWordByte then 0x2E :: s
    else if s.head? == some 0x5B && 3 ≤ s.length && s.getLast? == some 0x5D then s
    else 0x2E :: 0x22 :: s ++ [0x22]

/-- A document that has been looked up, as a value. -/
def extracted (asBytes : Bool) (d : Document) : Answer :=
  if d.isLeaf then match d.leafValue? with
    | some v => .value v
    | none => .error .malformedDocument
  else .ok (answer asBytes d)

/-- The values at the ends of some paths, as a list. Nothing comes of a null among the paths. -/
def extractedList (d : Document) :
    List Value → Except FunctionFault (Option (List (List UInt8)))
  | [] => .ok (some [])
  | v :: rest => match v.text? with
    | none => .ok none
    | some s => do
      let found ← d.find (← pathOf s)
      return (← extractedList d rest).map (((found.map render).getD (ascii "null")) :: ·)

def extract (asBytes : Bool) (d : Document) : List Value → Answer
  | [] => .null
  | [v] => match v.text? with
    | none => Answer.null
    | some s => do match ← d.find (← pathOf s) with
      | some d => extracted asBytes d
      | none => Answer.null
  | vs => do match ← extractedList d vs with
    | some parts => answerText asBytes (joined "[" "]" parts)
    | none => Answer.null

/-- What an arrow points at, as a document or as a value. -/
def arrow (asValue : Bool) (d : Document) (v : Value) : Answer :=
  match v.text? with
  | none => Answer.null
  | some s => do match ← d.find (arrowPath v s) with
    | none => Answer.null
    | some d =>
      if asValue then return { (← extracted false d) with isDocument := false }
      else return answer false d

/-- The document with a change at the end of a path. -/
def editedAt (d : Document) (e : Edit) (path : List UInt8) :
    Except FunctionFault (Option Document) :=
  match d.edit e path with
  | .ok d => .ok d
  | .error .missing => .ok (some d)
  | .error .malformed => .error .malformedPath

/-- The document without what is at the ends of some paths. -/
def removeAll (asBytes : Bool) (d : Document) : List Value → Answer
  | [] => .ok (answer asBytes d)
  | v :: rest => match v.text? with
    | none => Answer.null
    | some s => do match ← d.editedAt .remove (← pathOf s) with
      | some d => removeAll asBytes d rest
      | none => Answer.null

/-- The document with other values at the ends of some paths. -/
def putAll (change : Document → Edit) (asBytes : Bool) (d : Document) : List Computed → Answer
  | path :: new :: rest => match path.value.text? with
    | none => putAll change asBytes d rest
    | some s => do
      let path ← pathOf s
      let e := change (← ofComputed new)
      putAll change asBytes ((← d.editedAt e path).getD d) rest
  | _ => .ok (answer asBytes d)

/-- Which forms of documents count as valid: plain text, loose text, bytes that begin like a
document, and bytes that are one. -/
def isValid (flags : Nat) (v : Value) : Bool :=
  let isText (s : List UInt8) : Bool := flags % 4 != 0 && match read s with
    | .ok (_, isLoose) => !isLoose || flags / 2 % 2 = 1
    | .error _ => false
  match v, v.text? with
  | .blob b, _ =>
    if mayBe b then
      flags / 4 % 2 = 1 || (flags / 8 % 2 = 1 && (ofBytes? b).any isSound)
    else isText b
  | _, some s => isText s
  | _, none => false

/-- Where a text goes wrong, counted in characters from one; zero if it does not. -/
def faultPosition (s : List UInt8) : Nat :=
  match read s with
  | .ok _ => 0
  | .error n => ((s.take n).filter (!Text.isContinuation ·)).length + 1

/-- What a path leads to, or the whole document without one. -/
def chosen (d : Document) : List Computed → Except FunctionFault (Option Document)
  | [] => .ok (some d)
  | path :: _ => match path.value.text? with
    | none => .ok none
    | some s => do d.find (← pathOf s)

/-- What a function gives for a document and further arguments. -/
def callOn (d : Document) (asBytes : Bool) : (function : String) → List Computed → Answer
  | "json", [] => .ok (answer asBytes d)
  | "json_array_length", path => do
    match ← d.chosen path with
    | none => Answer.null
    | some (.array items) => Answer.integer items.length
    | some _ => Answer.integer 0
  | "json_type", path => do
    match ← d.chosen path with
    | none => Answer.null
    | some d => Answer.chars d.kind.toList
  | "json_extract", paths => d.extract asBytes (paths.map (·.value))
  | "->", [path] => d.arrow false path.value
  | "->>", [path] => d.arrow true path.value
  | "json_insert", vs => d.putAll .insert asBytes vs
  | "json_replace", vs => d.putAll .replace asBytes vs
  | "json_set", vs => d.putAll .put asBytes vs
  | "json_remove", paths => d.removeAll asBytes (paths.map (·.value))
  | "json_patch", [v] => do match ← ofArgument v.value with
    | some patch => .ok (answer asBytes (d.merged patch))
    | none => Answer.null
  | "json_pretty", indent =>
    let indent := (indent.head?.bind (·.value.text?)).map Bytes.upToZero
    .text (d.renderLines (indent.getD (ascii "    ")) 0)
  | _, _ => Answer.null

/-- What a function of documents gives, where its name tells whether it gives bytes. -/
def call (asBytes : Bool) : (function : String) → List Computed → Answer
  | "json_array", vs => do answerText asBytes (joined "[" "]" (← vs.mapM written))
  | "json_object", vs =>
    if vs.length % 2 = 1 then .error (.unpairedArguments "json_object")
    else do answerText asBytes (joined "\x7b" "\x7d" (← writtenParts vs))
  | "json_quote", [v] => do return ⟨.text (← written v), true⟩
  | "json_error_position", [v] => match v.value with
    | .null => .null
    | .blob b =>
      if mayBe b then .integer (if (ofBytes? b).any isSound then 0 else 1)
      else .integer (faultPosition b)
    | v => .integer (faultPosition v.bytes)
  | "json_valid", v :: flags =>
    let flags := (flags.head?.map (·.value.asInteger)).getD 1
    if flags < 1 ∨ 15 < flags then .error .flagsOutOfRange
    else if v.value.isNull then .null
    else .truth (isValid flags.toNat v.value)
  | _, [] => Answer.null
  | name, v :: vs =>
    if (name == "json_insert" || name == "json_replace" || name == "json_set") &&
        vs.length % 2 = 1 then .error (.unpairedArguments name)
    else if name == "json_extract" && vs.isEmpty then .null
    else do match ← ofArgument v.value with
      | none => Answer.null
      | some d => d.callOn asBytes name vs

end Document

end Conform.Sqlite
