import Conform.Error
import Conform.Text.Percent
import Conform.Text.Quoted
import Conform.Text.Scan

/-! Where an SQLite database is, and how it is opened. A connection string may be a bare file name;
a name that begins with `file:` is a locator of its own, with options after a question mark. -/
namespace Conform.Sqlite

open Text

/-- A path with slashes, in which nothing is written twice and no step leads back, but for steps
back at the beginning. -/
def normalPath (written : List Char) : List Char :=
  let isAbsolute := written.head? = some '/'
  let names := (pieces (· == '/') written).foldl (fun names name =>
    if name = [] ∨ name = ['.'] then names
    else if name ≠ ['.', '.'] then names ++ [name]
    else if names.isEmpty ∨ names.getLast? = some ['.', '.'] then
      (if isAbsolute then names else names ++ [name])
    else names.dropLast) []
  let path := ['/'].intercalate names
  if isAbsolute then '/' :: path else if path.isEmpty then ['.'] else path

/-- What may be done with a file. Each kind of access goes further than those before it. -/
inductive Access where
  | nothing
  | read
  | change
  | create
  deriving DecidableEq, Repr

/-- How far the access goes. -/
def Access.extent : Access → Nat
  | nothing => 0
  | read => 1
  | change => 2
  | create => 3

structure Location where
  /-- The file; without one the database is in memory. -/
  file : Option String := none
  access : Access := .create
  /-- Is every change refused? -/
  readOnly : Bool := false
  /-- A file whose permissions a new one takes, and which has to be there. -/
  pattern : Option String := none
  deriving DecidableEq, Repr

/-- A failure to open with the code that goes with it. -/
def openingFailure (code : Nat) (finding : String) : Failure :=
  .reported s!"(code: {code}) {finding}"

/-! ### Options -/

/-- How a database is to be opened, as far as it has been said. -/
structure Terms where
  access : Access := .create
  inMemory : Bool := false
  deriving DecidableEq, Repr

/-- The kinds of access that can be asked for by name. -/
def accessNames : List (String × Access) := [("ro", .read), ("rw", .change), ("rwc", .create)]

/-- The terms with another mode. Unless the database is in memory, access cannot be widened. -/
def Terms.withMode (t : Terms) (mode : String) : Except Failure Terms :=
  if mode = "memory" then .ok { access := .nothing, inMemory := true }
  else match accessNames.lookup mode with
    | none => .error (openingFailure 1 ("no such access mode: " ++ mode))
    | some access =>
      if t.inMemory || access.extent ≤ t.access.extent then .ok { access, inMemory := false }
      else .error (openingFailure 3 ("access mode not allowed: " ++ mode))

/-- The terms with one option of a locator. -/
def Terms.withOption (t : Terms) (name value : String) : Except Failure Terms :=
  match name with
  | "mode" => t.withMode value
  | "cache" =>
    if value = "shared" ∨ value = "private" then .ok t
    else .error (openingFailure 1 ("no such cache mode: " ++ value))
  | _ => .ok t

/-- The digits at the beginning of a text, to a base, without zeros before the others. -/
def leadingDigits (isDigit : Char → Bool) (s : List Char) : List Char :=
  (s.takeWhile isDigit).dropWhile (· == '0')

/-- The number that an option begins with. One of more than 31 bits counts as zero. -/
def optionNumber (s : List Char) : Nat :=
  let isHex (c : Char) : Bool := (hexDigit? c).isSome
  let ofHex (digits : List Char) : Nat :=
    digits.foldl (fun n c => 16 * n + (hexDigit? c).getD 0) 0
  let ofDecimal (digits : List Char) : Nat := ((String.ofList digits).toNat?).getD 0
  let n := match s with
    | '0' :: x :: d :: rest =>
      if (x == 'x' || x == 'X') && isHex d then ofHex (leadingDigits isHex (d :: rest))
      else ofDecimal (leadingDigits Char.isDigit s)
    | s => ofDecimal (leadingDigits Char.isDigit s)
  if n < 0x80000000 then n else 0

/-- Does the value turn an option on? Of a number only the last eight bits count. -/
def isOn (value : String) : Bool :=
  if value.toList.head?.any Char.isDigit then optionNumber value.toList % 256 != 0
  else ["yes", "true", "on"].contains (String.ofList (value.toList.map Char.toLower))

/-- The kinds of file access that are known. One of them keeps everything in memory. -/
def knownSystems : List String := ["unix", "unix-none", "unix-dotfile", "unix-excl", "memdb"]

namespace Location

/-- The greatest number of bytes in a name. -/
def nameLimit : Nat := 255

/-- A change needs a journal beside the file, the name of which is longer. -/
def hasJournal (path : List Char) : Bool :=
  let name := (pieces (· == '/') path).getLastD []
  (utf8 name).length + "-journal".length ≤ nameLimit

/-- The location of a name that is opened on some terms with some options. -/
def settled (t : Terms) (options : List (String × String)) (name : List Char) :
    Except Failure Location :=
  let system := ((options.filter (·.1 == "vfs")).getLast?).elim "unix" (·.2)
  let reads := t.access == .read
  let immutable := (options.lookup "immutable").any isOn
  if !knownSystems.contains system then .error (openingFailure 1 ("no such vfs: " ++ system))
  else if t.inMemory || name.isEmpty || name = ":memory:".toList then
    .ok { access := t.access, readOnly := reads }
  else if system = "memdb" then .ok { access := t.access, readOnly := reads || immutable }
  else
    let path := normalPath name
    .ok {
      file := some (String.ofList path)
      access := t.access
      readOnly := reads || immutable || !hasJournal path
      pattern := options.lookup "modeof" }

/-! ### Locators -/

/-- A part of a locator. A zero byte ends it. -/
def decoded (s : List Char) : List Char :=
  ofUtf8Lossy ((percentDecode s).takeWhile (· != 0))

/-- What stands before the path: nothing, or an authority that is empty or this very host. -/
def pathOf (s : List Char) : Except Failure (List Char) :=
  match s with
  | '/' :: '/' :: rest =>
    let authority := rest.takeWhile (· != '/')
    if authority.isEmpty ∨ authority = "localhost".toList then
      .ok (rest.dropWhile (· != '/'))
    else .error (openingFailure 1 ("invalid uri authority: " ++ String.ofList authority))
  | s => .ok s

/-- The location that follows the word `file:`. Options without a name do not count. -/
def ofLocator (t : Terms) (written : List Char) : Except Failure Location := do
  let s := (← pathOf written).takeWhile (· != '#')
  let options := ((pieces (· == '&') ((s.dropWhile (· != '?')).drop 1)).map fun piece =>
    (String.ofList (decoded (piece.takeWhile (· != '='))),
      String.ofList (decoded ((piece.dropWhile (· != '=')).drop 1)))).filter (!·.1.isEmpty)
  let t ← options.foldlM (fun t (name, value) => t.withOption name value) t
  settled t options (decoded (s.takeWhile (· != '?')))

/-- The location of a name as it is given to be opened. -/
def ofGiven (t : Terms) (name : List Char) : Except Failure Location :=
  match after "file:".toList name with
  | some rest => ofLocator t rest
  | none => settled t [] name

/-! ### Connection strings -/

/-- What the parameters of a connection string ask for. -/
structure Request where
  readOnly : Bool := false
  inMemory : Bool := false
  immutable : Bool := false
  system : Option String := none
  deriving DecidableEq, Repr

/-- One parameter of a connection string. -/
def Request.withParameter (r : Request) (name value : String) : Except Failure Request :=
  let unknown : Except Failure Request := .error (.configuration
    ("unknown value " ++ quoted value ++ " for \x60" ++ name ++ "\x60"))
  match name, value with
  | "mode", "ro" => .ok { r with readOnly := true }
  | "mode", "rw" | "mode", "rwc" => .ok r
  | "mode", "memory" => .ok { r with inMemory := true }
  | "cache", "private" | "cache", "shared" => .ok r
  | "immutable", "true" | "immutable", "1" => .ok { r with immutable := true }
  | "immutable", "false" | "immutable", "0" => .ok { r with immutable := false }
  | "vfs", system => .ok { r with system := some system }
  | "mode", _ | "cache", _ | "immutable", _ => unknown
  | _, _ => .error (.configuration
    ("unknown query parameter \x60" ++ name ++ "\x60 while parsing connection URL"))

/-- The options that the parameters come to. They are passed on in a locator, where a zero
character ends them, and a space becomes a plus sign. -/
def Request.options (r : Request) : List (String × String) :=
  let passed (value : String) : String :=
    String.ofList ((value.toList.takeWhile (· != '\x00')).map fun c => if c = ' ' then '+' else c)
  (if r.immutable then [("immutable", "true")] else []) ++
    (r.system.map fun system => ("vfs", passed system)).toList

/-- A text without any repetition of a beginning. -/
def withoutStarts (start : List Char) : (fuel : Nat) → List Char → List Char
  | 0, s => s
  | fuel + 1, s => match after start s with
    | some rest => withoutStarts start fuel rest
    | none => s

/-- The location of what follows `sqlite:` in a connection string. With options the name is taken
as it is, up to a zero character. -/
def ofString (s : List Char) : Except Failure Location := do
  let s := withoutStarts "//".toList s.length (withoutStarts "sqlite:".toList s.length s)
  let written := s.takeWhile (· != '?')
  let name ← (ofUtf8 (percentDecode written)).mapError fun fault => .configuration fault.message
  let parameters := queryPairs ((s.dropWhile (· != '?')).drop 1)
  let request ← parameters.foldlM (fun r (name, value) => r.withParameter name value)
    ({} : Request)
  let isUnnamed := written = ":memory:".toList
  let t : Terms := {
    access := if request.readOnly then .read else .create
    inMemory := request.inMemory || isUnnamed }
  let options := request.options
  if isUnnamed then settled t options []
  else if !options.isEmpty then settled t options (name.takeWhile (· != '\x00'))
  else if name.contains '\x00' then
    throw (.io "filename passed to SQLite must not contain nul bytes")
  else ofGiven t name

/-- The location that a connection string names. -/
def ofUrl (url : String) : Except Failure Location :=
  match after "sqlite:".toList url.toList with
  | some rest => ofString rest
  | none => ofGiven {} url.toList

end Location

end Conform.Sqlite
