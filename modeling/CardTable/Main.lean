import CardTable.Server.Console
import CardTable.Settings.Basic

/-!
# The program

Starts a server as the command line and the configuration file say, and plays its clients from the
standard input: each line is an entry of the console, and what comes of it is printed.
-/

namespace CardTable.Program

def contentOf? (file : String) : IO (Option String) := do
  try
    return some (← IO.FS.readFile file)
  catch _ =>
    return none

/-- The settings that a command line asks for. -/
def settingsOf (arguments : CommandLine.Arguments) : IO (Except String Settings) := do
  match arguments.config with
  | none => return .ok (.withoutFile arguments)
  | some file =>
    return (Settings.withFile arguments (← contentOf? file)).mapError (·.message file)

/-- Serves what is typed until the input ends. -/
partial def serve (input output : IO.FS.Stream) (console : Console) : IO Unit := do
  let line ← input.getLine
  if line.isEmpty then return
  match Console.Entry.ofLine? (line.dropEndWhile Char.isWhitespace).toString with
  | none =>
    output.putStrLn "?"
    output.flush
    serve input output console
  | some entry =>
    let (reports, next) := console.enter entry (← IO.monoNanosNow)
    for report in reports do
      output.putStrLn report.text
    output.flush
    serve input output next

/-- Complains, and says with which code to end. -/
def refuse (reason : String) (code : UInt32) : IO UInt32 := do
  IO.eprintln s!"card-table: {reason}"
  return code

/-- Starts a server as its arguments say, and serves. -/
def run (arguments : List String) : IO UInt32 := do
  match CommandLine.read arguments with
  | .error refusal =>
    if refusal.isAnswer then
      IO.println refusal.message
      return 0
    else refuse refusal.message 2
  | .ok arguments =>
    match ← settingsOf arguments with
    | .error reason => refuse reason 1
    | .ok settings =>
      let seed ← match arguments.seed with
        | some seed => pure seed
        | none => IO.rand 0 (Nat.pow 2 31)
      match Console.start? settings.server seed with
      | none => refuse s!"cannot listen on {settings.server.bindAddress}" 1
      | some console =>
        serve (← IO.getStdin) (← IO.getStdout) console
        return 0

end CardTable.Program

def main (arguments : List String) : IO UInt32 :=
  CardTable.Program.run arguments
