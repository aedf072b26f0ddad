/-! The arguments of a command line: switches, then the name of a command, then the switches of that
command. A switch may be given once. -/
namespace Conform.CommandLine

inductive SwitchKind where
  | flag
  /-- Takes any text. -/
  | text
  /-- Takes a path, which is never empty. -/
  | path
  /-- Asks for information in place of work. -/
  | information
  deriving DecidableEq, Repr

structure Switch where
  name : String
  letter : Option Char := none
  kind : SwitchKind
  deriving DecidableEq, Repr

/-- What is wrong with the arguments. -/
inductive Misuse where
  | unknownSwitch (written : String)
  | unexpected (argument : String)
  | unexpectedValue (switch : String)
  | missingValue (switch : String)
  | repeated (switch : String)
  | invalidValue (switch value : String)
  | missingCommand
  | conflict (switch other : String)
  | missingPartner (switch partner : String)
  deriving DecidableEq, Repr

def Misuse.message : Misuse → String
  | unknownSwitch written => "unknown switch " ++ written
  | unexpected argument => "unexpected argument '" ++ argument ++ "'"
  | unexpectedValue switch => "--" ++ switch ++ " takes no value"
  | missingValue switch => "--" ++ switch ++ " needs a value"
  | repeated switch => "--" ++ switch ++ " is given twice"
  | invalidValue switch value => "'" ++ value ++ "' is no value for --" ++ switch
  | missingCommand => "no command is given"
  | conflict switch other => "--" ++ switch ++ " and --" ++ other ++ " exclude each other"
  | missingPartner switch partner => "--" ++ switch ++ " needs --" ++ partner

/-- Why the arguments lead to no work. -/
inductive Stop where
  | information
  | misuse (m : Misuse)
  deriving DecidableEq, Repr

/-- The switches given, with their values. The value of a flag is empty. -/
abbrev Settings := List (String × String)

/-- How an argument is spelled. -/
inductive Spelling where
  | long (name : String) (value : Option String)
  | letters (cluster : List Char)
  /-- Two dashes alone, after which nothing is a switch. -/
  | divider
  | plain
  deriving DecidableEq, Repr

def Spelling.of (argument : String) : Spelling :=
  match argument.toList with
  | ['-', '-'] => .divider
  | '-' :: '-' :: rest =>
    .long (String.ofList (rest.takeWhile (· != '=')))
      (match rest.dropWhile (· != '=') with
        | _ :: value => some (String.ofList value)
        | [] => none)
  | '-' :: c :: rest => .letters (c :: rest)
  | _ => .plain

namespace Switch

/-- The settings with one more switch. -/
def set (s : Switch) (value : String) (given : Settings) : Except Stop Settings :=
  if (given.lookup s.name).isSome then .error (.misuse (.repeated s.name))
  else if s.kind = .path ∧ value.isEmpty then .error (.misuse (.missingValue s.name))
  else .ok (given ++ [(s.name, value)])

/-- The settings with the switch whose value came last, if there is one. A value that follows its
switch as an argument of its own is looked at only when something else comes, so that what a
command says of itself goes before it. -/
def settle (pending : Option (Switch × String)) (given : Settings) : Except Stop Settings :=
  match pending with
  | some (s, value) => s.set value given
  | none => .ok given

/-- Reads a cluster of letters. Flags may stand together; the rest after another switch is its
value. A switch that still waits for its value is returned. -/
def readLetters (switches : List Switch) (given : Settings) :
    List Char → Except Stop (Settings × Option Switch)
  | [] => .ok (given, none)
  | c :: rest =>
    match switches.find? (·.letter == some c) with
    | none => .error (.misuse (.unknownSwitch ("-" ++ c.toString)))
    | some s => match s.kind, rest with
      | .information, _ => .error .information
      | .flag, rest => do readLetters switches (← s.set "" given) rest
      | _, [] => .ok (given, some s)
      | _, '=' :: value => do return (← s.set (String.ofList value) given, none)
      | _, value => do return (← s.set (String.ofList value) given, none)

/-- Reads a switch by its name. -/
def readLong (switches : List Switch) (given : Settings) (name : String)
    (value : Option String) : Except Stop (Settings × Option Switch) :=
  match switches.find? (·.name == name) with
  | none => .error (.misuse (.unknownSwitch ("--" ++ name)))
  | some s => match s.kind, value with
    | .information, none => .error .information
    | .flag, none => do return (← s.set "" given, none)
    | .information, some _ | .flag, some _ => .error (.misuse (.unexpectedValue name))
    | _, none => .ok (given, some s)
    | _, some value => do return (← s.set value given, none)

/-- Reads switches up to the first argument that is none. The last of them may still be
pending. -/
def readAll (switches : List Switch) (pending : Option (Switch × String)) (given : Settings) :
    List String → Except Stop (Settings × Option (Switch × String) × List String)
  | [] => .ok (given, pending, [])
  | argument :: rest => do
    let (given, waiting) ← match Spelling.of argument with
      | .long name value => readLong switches (← settle pending given) name value
      | .letters cluster => readLetters switches (← settle pending given) cluster
      | .divider | .plain => return (given, pending, argument :: rest)
    match waiting, rest with
    | none, rest => readAll switches none given rest
    | some s, [] => .error (.misuse (.missingValue s.name))
    | some s, value :: rest =>
      if Spelling.of value = .plain then readAll switches (some (s, value)) given rest
      else .error (.misuse (.missingValue s.name))

end Switch

/-- Where the schema is read from. -/
inductive SchemaSource where
  | text (path : String)
  | documents (tables enums : String)
  | unstated
  deriving DecidableEq, Repr

inductive Command where
  /-- Brings a database in line with the schema. -/
  | push (forceReset yes dryRun : Bool)
  /-- Writes the schema as two documents. -/
  | dump (directory : String)
  deriving DecidableEq, Repr

structure Arguments where
  database : String
  source : SchemaSource
  command : Command
  deriving DecidableEq, Repr

def helpSwitch : Switch := { name := "help", letter := some 'h', kind := .information }

def generalSwitches : List Switch :=
  [{ name := "database", letter := some 'd', kind := .text },
   { name := "debug", kind := .flag },
   { name := "schema", letter := some 's', kind := .path },
   { name := "tables", kind := .path },
   { name := "enums", kind := .path },
   { name := "version", letter := some 'V', kind := .information },
   helpSwitch]

def pushSwitches : List Switch :=
  [{ name := "force-reset", kind := .flag },
   { name := "yes", letter := some 'y', kind := .flag },
   { name := "dry-run", kind := .flag },
   helpSwitch]

def dumpSwitches : List Switch :=
  [{ name := "out-dir", letter := some 'o', kind := .path }, helpSwitch]

namespace Arguments

/-- The settings of a command, which takes nothing but switches. -/
def commandSettings (switches : List Switch) (arguments : List String) :
    Except Stop Settings := do
  match ← Switch.readAll switches none [] arguments with
  | (given, pending, []) | (given, pending, ["--"]) => Switch.settle pending given
  | (_, _, "--" :: argument :: _) | (_, _, argument :: _) =>
    throw (.misuse (.unexpected argument))

/-- The command with its own arguments. -/
def readCommand : List String → Except Stop Command
  | [] => .error (.misuse .missingCommand)
  | "push" :: rest => do
    let given ← commandSettings pushSwitches rest
    let has (name : String) : Bool := (given.lookup name).isSome
    return .push (has "force-reset") (has "yes") (has "dry-run")
  | "dump" :: rest => do
    let given ← commandSettings dumpSwitches rest
    return .dump ((given.lookup "out-dir").getD ".")
  | ["help"] | ["help", "push"] | ["help", "dump"] | ["help", "help"] => .error .information
  | "help" :: argument :: _ | argument :: _ => .error (.misuse (.unexpected argument))

/-- The schema is one text, or two documents together. -/
def readSource (given : Settings) : Except Stop SchemaSource :=
  match given.lookup "schema", given.lookup "tables", given.lookup "enums" with
  | some path, none, none => .ok (.text path)
  | some _, some _, _ => .error (.misuse (.conflict "schema" "tables"))
  | some _, none, some _ => .error (.misuse (.conflict "schema" "enums"))
  | none, some tables, some enums => .ok (.documents tables enums)
  | none, some _, none => .error (.misuse (.missingPartner "tables" "enums"))
  | none, none, some _ => .error (.misuse (.missingPartner "enums" "tables"))
  | none, none, none => .ok .unstated

/-- Without the flag, the environment may ask for debugging, in plain words. -/
def checkDebug (environment : Settings) (given : Settings) : Except Stop Unit :=
  match given.lookup "debug", environment.lookup "DB_DEBUG" with
  | some _, _ | none, none | none, some "true" | none, some "false" => .ok ()
  | none, some value => .error (.misuse (.invalidValue "debug" value))

/-- The arguments as they are meant. What they leave open the environment may settle. -/
def read (environment : List (String × String)) (arguments : List String) :
    Except Stop Arguments := do
  let (given, pending, rest) ← Switch.readAll generalSwitches none [] arguments
  let command ← readCommand rest
  let given ← Switch.settle pending given
  checkDebug environment given
  let source ← readSource given
  let database := ((given.lookup "database").or (environment.lookup "DATABASE_URL")).getD
    "sqlite::memory:"
  return { database, source, command }

end Arguments

end Conform.CommandLine
