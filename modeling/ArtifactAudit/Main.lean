import ArtifactAudit.CommandLine.Program
import ArtifactAudit.Host.Exchange
import ArtifactAudit.Json.Writer

/-!
# The command line

Carries the program out. Requests, commands and questions about files are put to
a host, one document a line on the standard output, and each is answered by one
line on the standard input. What is printed goes to the host too. The log goes
to the error stream.
-/

set_option autoImplicit false

namespace ArtifactAudit.Host

/-- The streams of the program and the least level of log lines. -/
structure Console where
  /-- Where answers come from. -/
  input : IO.FS.Stream
  /-- Where documents go. -/
  output : IO.FS.Stream
  /-- Where the log goes. -/
  errors : IO.FS.Stream
  /-- The level of the log, once it is set up. -/
  level : IO.Ref Logging.Level

namespace Console

def write (console : Console) (document : Json.Value) : IO Unit := do
  console.output.putStr (document.written ++ "\n")
  console.output.flush

/-- Asks for an answer. -/
def ask (console : Console) (question : Json.Value) : IO Json.Value := do
  console.write question
  let line ← console.input.getLine
  match Json.read .listing line.toList with
  | .ok answer => return answer
  | .error _ => return .null

/-- Writes a line to the log, if it is grave enough. -/
def log (console : Console) (line : Logging.Line) : IO Unit := do
  if (← console.level.get).severity ≤ line.level.severity then
    console.errors.putStr (line.level.name ++ " - " ++ line.text ++ "\n")

/-- Sets the log up. The last logger of a setup is the program's own. -/
def setUpLog (console : Console) (setup : Logging.Setup) :
    IO (Except Logging.Setup.Refused Unit) := do
  match setup.apply with
  | .error refused => return .error refused
  | .ok loggers =>
    if let some own := loggers.getLast? then console.level.set own.level
    return .ok ()

/-- Waits, unless the clock cannot be read after so long a pause. -/
def sleep (seconds : Float) : IO (Except Fault Unit) := do
  let now := (← IO.monoNanosNow).toFloat
  if Script.pauseLimit ≤ now + seconds * 1000000000 then return .error .overflow
  IO.sleep (seconds * 1000).toUInt32
  return .ok ()

def answer (console : Console) : (call : Call) → IO call.Answer
  | .request request => return platformAnswer (← console.ask (requestDocument request))
  | .command command => return commandAnswer (← console.ask (commandDocument command))
  | .content path => return fileAnswer (← console.ask (fileDocument "content" path))
  | .status path => return fileStatus (← console.ask (fileDocument "status" path))
  | .clock => return (← IO.monoMsNow).toFloat / 1000
  | .sleep seconds => sleep seconds
  | .setUpLog setup => console.setUpLog setup
  | .log line => console.log line
  | .enter _ => return ()

def carryOut {α : Type} (console : Console) : Script α → IO (Except Halt α)
  | .done value => return .ok value
  | .halt reason => return .error reason
  | .ask call next => do
    let reply ← console.answer call
    console.carryOut (next reply)

/-- Tells the user how the program ended. -/
def report (console : Console) : CommandLine.Ending → IO Unit
  | .help => for flag in CommandLine.flags do console.errors.putStr ("  " ++ flag.name ++ "\n")
  | .usage error => console.errors.putStr ("Error: " ++ error.printed ++ "\n")
  | .stopped _ => console.errors.putStr "Error: the program was stopped by a fault\n"
  | ending => for printed in ending.printed do console.write (printedDocument printed)

end Console

/-- The variables of the environment that hold settings. -/
def environment : IO Environment :=
  Environment.variableNames.filterMapM fun name => do
    return (← IO.getEnv name).map fun value => (name, value)

end ArtifactAudit.Host

open ArtifactAudit in
/-- Runs the program on the words of the command line. -/
def main (words : List String) : IO UInt32 := do
  let console : Host.Console :=
    { input := ← IO.getStdin, output := ← IO.getStdout, errors := ← IO.getStderr
      level := ← IO.mkRef .info }
  match ← console.carryOut (CommandLine.run (← Host.environment) words) with
  | .ok session =>
    console.report session.ending
    return session.ending.exitCode.toUInt32
  | .error _ => return 1
