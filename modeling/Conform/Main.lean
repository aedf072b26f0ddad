import Conform.CommandLine.Program

/-! The program in the real world. -/
namespace Conform.CommandLine

def FileFault.ofError : IO.Error → FileFault
  | .noFileOrDirectory .. => .missing
  | .alreadyExists .. => .exists
  | .inappropriateType .. => .notDirectory
  | fault => .other (toString fault)

/-- The outcome of an action on files. -/
def fileResult (action : IO α) : IO (Except FileFault α) := do
  try
    return .ok (← action)
  catch fault =>
    return .error (.ofError fault)

def realWorld : World IO where
  readFile path := fileResult (IO.FS.readFile path)
  writeFile path content := fileResult (IO.FS.writeFile path content)
  isDirectory path := do ((← IO.currentDir) / path).isDir
  makeDirectory path := fileResult (IO.FS.createDir path)
  ask shown := do
    IO.eprint shown
    (← IO.getStdin).getLine
  complain text := IO.eprint text
  print text := IO.print text

/-- The variables that the program knows, as far as they are set. -/
def knownEnvironment : IO (List (String × String)) :=
  ["DATABASE_URL", "DB_DEBUG"].filterMapM fun name => do
    return (← IO.getEnv name).map (name, ·)

end Conform.CommandLine

def main (arguments : List String) : IO UInt32 := do
  let environment ← Conform.CommandLine.knownEnvironment
  return (← Conform.CommandLine.realWorld.run environment arguments).toUInt32
