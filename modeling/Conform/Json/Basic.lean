/-! JSON values. An object keeps its members in the order written, repeated keys included, so that
a reader of a document can refuse a repetition. A number keeps its spelling, and so does what is
well formed but cannot be read. -/
namespace Conform

inductive Json where
  | null
  | bool (value : Bool)
  | number (spelling : List Char)
  | string (text : String)
  | array (items : List Json)
  | object (members : List (String × Json))
  /-- A string with an escape that stands for no character, or an object with such a key. -/
  | misspelt (spelling : List Char)
  deriving Repr, Inhabited

namespace Json

def bool? : Json → Option Bool
  | .bool b => some b
  | _ => none

def string? : Json → Option String
  | .string s => some s
  | _ => none

def array? : Json → Option (List Json)
  | .array items => some items
  | _ => none

/-- The items of an array, each read by `item`. -/
def listOf? (item : Json → Option α) (j : Json) : Option (List α) := do
  (← j.array?).mapM item

/-- `null` or a value that `item` reads. -/
def nullable? (item : Json → Option α) : Json → Option (Option α)
  | .null => some none
  | j => (item j).map some

/-- The values of a record under `keys`. An object gives them by name and may hold other keys, but
none of these twice. An array gives them by position, and the last ones may be missing. -/
def record? (keys : List String) : Json → Option (List (Option Json))
  | .object members => keys.mapM fun key =>
    match members.filter (·.1 == key) with
    | [] => some none
    | [member] => some (some member.2)
    | _ => none
  | .array items =>
    if items.length ≤ keys.length then some ((List.range keys.length).map (items[·]?)) else none
  | _ => none

end Json

/-- A value that has to be given. -/
def Json.required? (item : Json → Option α) (j : Option Json) : Option α := j.bind item

/-- A value that may be left out. -/
def Json.orElse? (item : Json → Option α) (missing : α) : Option Json → Option α
  | none => some missing
  | some j => item j

end Conform
