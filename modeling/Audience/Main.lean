import Audience.CommandLine

/-!
# The program

Reads files, the environment and standard input, and replays the script in
real time: output to standard output as it comes, the log to standard error.
-/

namespace Audience.Main

/-- What stands at a path. -/
def content (path : String) : IO Settings.FileContent := do
  try
    return .bytes (← IO.FS.readBinFile path)
  catch
    | .noFileOrDirectory .. => return .missing
    | _ => return .unreadable

/-- Splits a variable of the environment into name and value. -/
def variableOf (cs : List Char) : Option (String × String) :=
  (Text.cut? '=' cs).map fun (name, value) => (String.ofList name, String.ofList value)

/-- The variables of the environment, as the system lists them. -/
def environment : IO Settings.Environment := do
  match ← content "/proc/self/environ" with
  | .bytes data =>
    let listing := (String.fromUTF8? data).getD ""
    return (Text.split '\x00' listing.toList).filterMap variableOf
  | _ => return []

/-- The log lines of notes, to standard error. -/
def writeLog (level : LogLevel) (notes : List Note) : IO Unit :=
  (Job.logLines level notes).forM fun line => IO.eprintln line

/-- Sleeps in real time, at most the longest wait, in pieces that a word of 32 bits holds. -/
def sleep (span : Nat) : IO Unit := do
  let millis := Time.ceilMs (min span Time.longestWait) / Time.perMillisecond
  for _ in [0:millis / Nat.pow 2 31] do
    IO.sleep (Nat.pow 2 31).toUInt32
  IO.sleep (millis % Nat.pow 2 31).toUInt32

/-- Carries out commands in real time. -/
def play (level : LogLevel) (tracker : Tracker) : List Command → IO UInt32
  | [] => do
    writeLog level tracker.shutdown.2
    return 0
  | command :: commands => do
    if let .sleep span := command then
      sleep span
    let played := Playback.step tracker {} command
    writeLog level played.notes
    IO.print (String.ofList played.output)
    (← IO.getStdout).flush
    play level played.tracker commands

/-- Prepares a replay and carries it out. -/
def start (arguments : List String) (a : Arguments) : IO UInt32 := do
  let files ← (a.config.toList ++ a.script.toList).mapM fun path => do
    return (path, ← content path)
  let input ← if a.script.isSome then pure ByteArray.empty
    else (← IO.getStdin).readToEnd.map String.toUTF8
  let invocation : Invocation := {
    arguments
    environment := ← environment
    file := fun path => (List.lookup path files).getD .missing
    input }
  match invocation.job a with
  | .error refusal =>
    IO.eprintln refusal.message
    return 1
  | .ok job =>
    writeLog job.level job.notes
    play job.level job.tracker job.commands

end Audience.Main

def main (arguments : List String) : IO UInt32 := do
  match Audience.Arguments.parse {} arguments with
  | .misuse =>
    IO.eprintln "Usage: subwatch [OPTIONS]"
    return 2
  | .version =>
    IO.println Audience.versionLine
    return 0
  | .help =>
    Audience.helpLines.forM fun line => IO.println line
    return 0
  | .run a => Audience.Main.start arguments a
