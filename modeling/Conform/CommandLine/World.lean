/-! What a command-line program touches: files, and a terminal to ask and to tell. -/
namespace Conform.CommandLine

/-- Why a file cannot be read or written. -/
inductive FileFault where
  | missing
  | exists
  | notDirectory
  | isDirectory
  | nameTooLong
  | other (message : String)
  deriving DecidableEq, Repr

def FileFault.message : FileFault → String
  | missing => "No such file or directory (os error 2)"
  | «exists» => "File exists (os error 17)"
  | notDirectory => "Not a directory (os error 20)"
  | isDirectory => "Is a directory (os error 21)"
  | nameTooLong => "File name too long (os error 36)"
  | other message => message

structure World (m : Type → Type) where
  readFile : (path : String) → m (Except FileFault String)
  writeFile : (path content : String) → m (Except FileFault Unit)
  isDirectory : (path : String) → m Bool
  /-- Makes a directory in one that exists. -/
  makeDirectory : (path : String) → m (Except FileFault Unit)
  /-- Shows a text where errors go and reads the line typed after it; empty at the end of input. -/
  ask : (shown : String) → m String
  /-- Writes a text where errors go. -/
  complain : (text : String) → m Unit
  /-- Writes a text to the output. -/
  print : (text : String) → m Unit

end Conform.CommandLine
