import CardTable.Text.Numeral

/-!
# The command line

Flags come in a short and in a long form. A flag that takes a value has it attached or takes the
next argument, which must not look like a flag. A value that stands apart is looked at only when the
next known flag or the end comes, so an unknown argument right behind it is complained of first.
-/

namespace CardTable.CommandLine

/-- What a command line says. -/
structure Arguments where
  config : Option String := none
  bind : Option String := none
  logLevel : Option String := none
  jsonLogs : Bool := false
  /-- The seed of all shuffles. -/
  seed : Option Nat := none
  deriving DecidableEq, Repr

/-- Why a command line starts no server. -/
inductive Refusal
  | helpWanted
  | versionWanted
  | unknownArgument
  /-- A value is missing, or empty where it must not be. -/
  | missingValue
  /-- The seed is no number that fits 64 bits. -/
  | invalidValue
  | repeated
  /-- A value is attached to a flag that takes none. -/
  | unwantedValue
  deriving DecidableEq, Repr

def usage : String :=
  "Usage: card-table [--config FILE] [--bind ADDRESS] [--log-level LEVEL] [--json-logs]\n" ++
  "                  [--seed SEED] [--help] [--version]"

/-- The text shown in place of a server. -/
def Refusal.message : Refusal → String
  | helpWanted => usage
  | versionWanted => "card-table 1.0"
  | unknownArgument => "an argument is unknown\n" ++ usage
  | missingValue => "a value is missing\n" ++ usage
  | invalidValue => "the seed is no number that fits 64 bits\n" ++ usage
  | repeated => "a flag is given twice\n" ++ usage
  | unwantedValue => "a flag that takes no value has one\n" ++ usage

/-- Whether the command line asked for the text itself, so that showing it is a success. -/
def Refusal.isAnswer : Refusal → Bool
  | helpWanted | versionWanted => true
  | _ => false

inductive Parameter
  | config
  | bind
  | logLevel
  | seed
  deriving DecidableEq, Repr

inductive Flag
  | takes (parameter : Parameter)
  | jsonLogs
  | help
  | version
  deriving DecidableEq, Repr

def Flag.ofName? : String → Option Flag
  | "config" => some (.takes .config)
  | "bind" => some (.takes .bind)
  | "log-level" => some (.takes .logLevel)
  | "seed" => some (.takes .seed)
  | "json-logs" => some .jsonLogs
  | "help" => some .help
  | "version" => some .version
  | _ => none

def Flag.ofLetter? : Char → Option Flag
  | 'c' => some (.takes .config)
  | 'b' => some (.takes .bind)
  | 'l' => some (.takes .logLevel)
  | 'h' => some .help
  | 'V' => some .version
  | _ => none

/-- What has been read so far, and the flag whose value is not settled yet, with the value if it has
come. -/
structure Reading where
  arguments : Arguments := {}
  pending : Option (Parameter × Option String) := none

namespace Reading

/-- Settles the value of a flag. -/
def store (arguments : Arguments) (parameter : Parameter) (value : String) :
    Except Refusal Arguments :=
  match parameter with
  | .config =>
    if arguments.config.isSome then .error .repeated
    else if value.isEmpty then .error .missingValue
    else .ok { arguments with config := some value }
  | .bind =>
    if arguments.bind.isSome then .error .repeated
    else .ok { arguments with bind := some value }
  | .logLevel =>
    if arguments.logLevel.isSome then .error .repeated
    else .ok { arguments with logLevel := some value }
  | .seed =>
    if arguments.seed.isSome then .error .repeated
    else
      match Text.numeral? Text.wordBound value.toList with
      | some seed => .ok { arguments with seed := some seed }
      | none => .error .invalidValue

/-- Settles the flag whose value was not settled yet. -/
def settle (reading : Reading) : Except Refusal Arguments :=
  match reading.pending with
  | none => .ok reading.arguments
  | some (_, none) => .error .missingValue
  | some (parameter, some value) => store reading.arguments parameter value

/-- Takes in a flag, with the value that is attached to it if there is one. -/
def flag (reading : Reading) (flag : Flag) (attached : Option String) : Except Refusal Reading := do
  match flag, attached with
  | .takes parameter, some value =>
    return { arguments := ← store (← reading.settle) parameter value }
  | .takes parameter, none =>
    return { arguments := ← reading.settle, pending := some (parameter, none) }
  | _, some _ => throw .unwantedValue
  | .jsonLogs, none =>
    let arguments ← reading.settle
    if arguments.jsonLogs then throw .repeated
    return { arguments := { arguments with jsonLogs := true } }
  | .help, none => do
    let _ ← reading.settle
    throw .helpWanted
  | .version, none => do
    let _ ← reading.settle
    throw .versionWanted

/-- The value attached to a letter: what follows it, less an equals sign; nothing if nothing
follows. -/
def attachedTo : List Char → Option String
  | [] => none
  | '=' :: value => some (String.ofList value)
  | value => some (String.ofList value)

/-- Takes in an argument that opens with a single hyphen. -/
def letters (reading : Reading) : List Char → Except Refusal Reading
  | [] => .ok reading
  | letter :: rest =>
    match Flag.ofLetter? letter with
    | none => .error .unknownArgument
    | some (.takes parameter) => reading.flag (.takes parameter) (attachedTo rest)
    | some other => do letters (← reading.flag other none) rest

/-- Takes in an argument that opens with two hyphens. -/
def name (reading : Reading) (text : List Char) : Except Refusal Reading :=
  let name := text.takeWhile (· ≠ '=')
  let attached := match text.dropWhile (· ≠ '=') with
    | [] => none
    | _ :: value => some (String.ofList value)
  match Flag.ofName? (String.ofList name) with
  | none => .error .unknownArgument
  | some flag => reading.flag flag attached

/-- Takes in an argument that is no flag: the value that the last flag waits for, if it does. -/
def value (reading : Reading) (text : String) : Except Refusal Reading :=
  match reading.pending with
  | some (parameter, none) => .ok { reading with pending := some (parameter, some text) }
  | _ => .error .unknownArgument

/-- Takes in all arguments. Nothing may stand behind a bare double hyphen. -/
def read (reading : Reading) : List String → Except Refusal Arguments
  | [] => reading.settle
  | argument :: later =>
    match argument.toList with
    | ['-', '-'] => if later = [] then reading.settle else .error .unknownArgument
    | '-' :: '-' :: text => do (← reading.name text).read later
    | '-' :: letter :: rest => do (← reading.letters (letter :: rest)).read later
    | _ => do (← reading.value argument).read later

end Reading

/-- Reads a command line, without the name of the program. -/
def read (arguments : List String) : Except Refusal Arguments :=
  Reading.read {} arguments

end CardTable.CommandLine
