import Conform.CommandLine.World
import Conform.Text.Blank

/-! A world for rehearsals: files in memory, lines typed in advance, and everything that is shown
written down. Paths are followed name by name, and every name on the way is that of a directory. -/
namespace Conform.Rehearsal

open CommandLine

/-- The names on the way to a file, from the root. -/
abbrev Path := List String

/-- Where paths begin that do not begin at the root. -/
def home : Path := ["home"]

structure Workspace where
  files : List (Path × String) := []
  directories : List Path := [home]
  typed : List String := []
  output : String := ""
  errors : String := ""

/-- Where a path leads. -/
structure Destination where
  path : Path
  /-- Does the way of writing ask for a directory? -/
  asDirectory : Bool
  deriving DecidableEq, Repr

namespace Workspace

def file? (w : Workspace) (path : Path) : Option String := w.files.lookup path

/-- The root is a directory, and so is all that leads to a file or to a directory. -/
def isDirectory (w : Workspace) (path : Path) : Bool :=
  path.isEmpty || w.directories.any (path.isPrefixOf ·) ||
    w.files.any fun (file, _) => path.length < file.length && path.isPrefixOf file

/-- Goes on from a directory by one name. -/
def step (path : Path) (name : String) : Path :=
  if name = "." then path
  else if name = ".." then path.dropLast
  else path ++ [name]

/-- The greatest numbers of bytes in a name and in a path. -/
def nameLimit : Nat := 255

def pathLimit : Nat := 4095

/-- Follows names, all of which lead on to others. -/
def follow (w : Workspace) (path : Path) : List String → Except FileFault Path
  | [] => .ok path
  | name :: rest =>
    let next := step path name
    if nameLimit < name.utf8ByteSize then .error .nameTooLong
    else if w.isDirectory next then w.follow next rest
    else if (w.file? next).isSome then .error .notDirectory
    else .error .missing

/-- The destination of a path as it is written. -/
def destination (w : Workspace) (written : String) : Except FileFault Destination := do
  if written.isEmpty then throw .missing
  if pathLimit < written.utf8ByteSize then throw .nameTooLong
  let pieces := (Text.pieces (· == '/') written.toList).map String.ofList
  let start := if written.toList.head? = some '/' then [] else home
  match (pieces.filter (!·.isEmpty)).reverse with
  | [] => return ⟨[], true⟩
  | last :: before =>
    let path ← w.follow start before.reverse
    if nameLimit < last.utf8ByteSize then throw .nameTooLong
    return ⟨step path last, pieces.getLast? == some "" || last == "." || last == ".."⟩

/-- Where a path leads that is written without detours. -/
def placeOf (written : String) : Path :=
  home ++ ((Text.pieces (· == '/') written.toList).map String.ofList).filter (!·.isEmpty)

def readFile (w : Workspace) (written : String) : Except FileFault String := do
  let d ← w.destination written
  if w.isDirectory d.path then throw .isDirectory
  match w.file? d.path with
  | some content => if d.asDirectory then throw .notDirectory else return content
  | none => throw .missing

def writeFile (w : Workspace) (written content : String) : Except FileFault Workspace := do
  let d ← w.destination written
  if d.asDirectory || w.isDirectory d.path then throw .isDirectory
  return { w with files := (d.path, content) :: w.files.filter (·.1 != d.path) }

def leadsToDirectory (w : Workspace) (written : String) : Bool :=
  match w.destination written with
  | .ok d => w.isDirectory d.path
  | .error _ => false

def makeDirectory (w : Workspace) (written : String) : Except FileFault Workspace := do
  let d ← w.destination written
  if w.isDirectory d.path || (w.file? d.path).isSome then throw .exists
  return { w with directories := d.path :: w.directories }

/-- Keeps the new state, if there is one. -/
def settle (result : Except FileFault Workspace) : StateM Workspace (Except FileFault Unit) :=
  match result with
  | .ok w => do
    set w
    return .ok ()
  | .error fault => return .error fault

end Workspace

def world : World (StateM Workspace) where
  readFile path := return (← get).readFile path
  writeFile path content := do Workspace.settle ((← get).writeFile path content)
  isDirectory path := return (← get).leadsToDirectory path
  makeDirectory path := do Workspace.settle ((← get).makeDirectory path)
  ask shown := modifyGet fun w =>
    (w.typed.head?.getD "", { w with typed := w.typed.tail, errors := w.errors ++ shown })
  complain text := modify fun w => { w with errors := w.errors ++ text }
  print text := modify fun w => { w with output := w.output ++ text }

end Conform.Rehearsal
