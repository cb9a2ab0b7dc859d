import Audience.Playback
import Audience.Settings.Layers
import Audience.Text.Terminal

/-!
# The command line

The program loads settings, reads a script, from standard input unless a file
is named, and replays it, its findings on standard output. `Arguments.parse`
reads the command line; `Invocation.job` does everything up to the first
command, so that a script with a bad line has no effect; `Invocation.outcome`
is the whole run.
-/

namespace Audience

/-- What the command line asks for. -/
structure Arguments where
  config : Option String := none
  script : Option String := none
  level : Option LogLevel := none
deriving DecidableEq, Repr

/-- What the command line comes to. -/
inductive Request where
  | run (arguments : Arguments)
  | version
  | help
  | misuse
deriving DecidableEq, Repr

namespace Arguments

/-- The options that take a value. -/
inductive Key where
  | config
  | script
  | level
deriving DecidableEq, Repr

def Key.ofLong? : String → Option Key
  | "config" => some .config
  | "script" => some .script
  | "log-level" => some .level
  | _ => none

def Key.ofShort? : Char → Option Key
  | 'c' => some .config
  | 's' => some .script
  | 'l' => some .level
  | _ => none

/-- Gives an option its value. An option has one value, a path is not empty, and a level is known
by its name in lower case. -/
def set? (a : Arguments) (key : Key) (value : String) : Option Arguments :=
  match key with
  | .config => if a.config.isSome || value.isEmpty then none else some { a with config := value }
  | .script => if a.script.isSome || value.isEmpty then none else some { a with script := value }
  | .level =>
    if a.level.isSome then none
    else (LogLevel.ofName? value).map fun level => { a with level := some level }

/-- Whether an argument is an option; a lone dash is not. -/
def looksLikeOption (argument : String) : Bool :=
  match argument.toList with
  | '-' :: _ :: _ => true
  | _ => false

/-- The name and the attached value of a long option. -/
def splitLong (cs : List Char) : String × Option String :=
  match Text.cut? '=' cs with
  | some (name, value) => (String.ofList name, some (String.ofList value))
  | none => (String.ofList cs, none)

/-- The value attached to a short option, if any characters follow its letter. -/
def attached? : List Char → Option String
  | [] => none
  | '=' :: cs => some (String.ofList cs)
  | cs => some (String.ofList cs)

/-- What an argument says by itself. -/
inductive Word where
  | option (key : Key) (value : Option String)
  | version
  | help
  | endOfOptions
  | other

def wordOfLong (cs : List Char) : Word :=
  match splitLong cs with
  | ("version", none) => .version
  | ("help", none) => .help
  | (name, value) => match Key.ofLong? name with
    | some key => .option key value
    | none => .other

def wordOfShort (c : Char) (cs : List Char) : Word :=
  if c = 'V' then .version
  else if c = 'h' then .help
  else match Key.ofShort? c with
    | some key => .option key (attached? cs)
    | none => .other

def word (argument : String) : Word :=
  match argument.toList with
  | ['-', '-'] => .endOfOptions
  | '-' :: '-' :: cs => wordOfLong cs
  | '-' :: c :: cs => wordOfShort c cs
  | _ => .other

/-- Reads arguments from left to right. A value may be attached to its option or follow it. -/
def parse (a : Arguments) : List String → Request
  | [] => .run a
  | argument :: rest => match word argument with
    | .version => .version
    | .help => .help
    | .endOfOptions => if rest.isEmpty then .run a else .misuse
    | .other => .misuse
    | .option key (some value) => match a.set? key value with
      | some a => a.parse rest
      | none => .misuse
    | .option key none => match rest with
      | [] => .misuse
      | value :: rest =>
        if looksLikeOption value then .misuse
        else match a.set? key value with
          | some a => a.parse rest
          | none => .misuse

end Arguments

/-- What the program is started with. -/
structure Invocation where
  arguments : List String
  environment : Settings.Environment
  file : String → Settings.FileContent
  input : ByteArray

/-- Why the program ends without having replayed its script. -/
inductive Refusal where
  | settings (failure : Settings.Failure)
  | unreadableScript
  | badScript (fault : ScriptFault)
  | cutShort (fault : PlaybackFault)
deriving DecidableEq, Repr

/-- The line that says what is wrong. -/
def Refusal.message : Refusal → String
  | .settings failure => s!"Error loading config: {failure.message}"
  | .unreadableScript => "Error: the script cannot be read"
  | .badScript fault => s!"Error: {fault.display}"
  | .cutShort fault => s!"Error: {fault.message}"

/-- A replay that is about to start, and what has been noted before it. -/
structure Job where
  level : LogLevel
  commands : List Command
  tracker : Tracker
  notes : List Note

/-- How the program ends. -/
structure Outcome where
  code : Nat
  output : String := ""
  refusal : Option Refusal := none
  log : List String := []
deriving DecidableEq, Repr

/-- The line that `--version` prints. -/
def versionLine : String := "subwatch 0.0.0-dev"

/-- The text that `--help` prints. -/
def helpLines : List String := [
  "Replay subscribe/unsubscribe events against the topic manager",
  "",
  "Usage: subwatch [OPTIONS]",
  "",
  "Options:",
  "  -c, --config <CONFIG>        Configuration file path (TOML format)",
  "  -s, --script <SCRIPT>        Event script to replay (reads stdin when omitted)",
  "  -l, --log-level <LOG_LEVEL>  Log level (error, warn, info, debug, trace)",
  "  -h, --help                   Print help",
  "  -V, --version                Print version"]

namespace Invocation

/-- The settings that the invocation asks for. -/
def settings (i : Invocation) (a : Arguments) : Except Settings.Failure Settings :=
  match a.config with
  | some path => Settings.load i.environment (i.file path)
  | none => Settings.ofEnvironment i.environment

/-- The text of the script. -/
def script? (i : Invocation) (a : Arguments) : Option String :=
  match a.script with
  | none => String.fromUTF8? i.input
  | some path => match i.file path with
    | .bytes data => String.fromUTF8? data
    | _ => none

/-- A listener that has transitions logged. -/
def announcer : Listener := .leaf fun t => .note (.announced t) .done

/-- The level of the log: the one asked for, or else that of the settings. -/
def level (a : Arguments) (s : Settings) : LogLevel := a.level.getD (s.logLevel?.getD .warn)

/-- What is noted before the first command. -/
def preamble (a : Arguments) (s : Settings) (commands : List Command) : List Note :=
  (a.config.map Note.settingsLoaded).toList ++
    [.replayStarted commands.length s.cleanup.interval s.cleanup.threshold]

/-- Everything up to the first command: the settings first, then the whole script. -/
def job (i : Invocation) (a : Arguments) : Except Refusal Job :=
  match i.settings a with
  | .error failure => .error (.settings failure)
  | .ok s => match i.script? a with
    | none => .error .unreadableScript
    | some text => match Script.parse text with
      | .error fault => .error (.badScript fault)
      | .ok commands =>
        let (tracker, notes) := Tracker.create announcer s.cleanup
        .ok {
          level := level a s
          commands
          tracker
          notes := preamble a s commands ++ notes }

end Invocation

namespace Job

/-- The lines of the log, which goes to a terminal. -/
def logLines (level : LogLevel) (notes : List Note) : List String :=
  (logAt level notes).map Text.forTerminal

/-- Ends the cleanup after a replay that has come to its end. -/
def close (p : Played) : List Note :=
  match p.fault with
  | some _ => []
  | none => p.tracker.shutdown.2

/-- Replays the script. -/
def run (j : Job) : Outcome :=
  let played := Playback.run j.tracker {} j.commands
  { code := if played.fault.isSome then 1 else 0
    output := String.ofList played.output
    refusal := played.fault.map .cutShort
    log := logLines j.level (j.notes ++ played.notes ++ close played) }

end Job

/-- The whole run of the program. -/
def Invocation.outcome (i : Invocation) : Outcome :=
  match Arguments.parse {} i.arguments with
  | .misuse => { code := 2 }
  | .version => { code := 0, output := versionLine ++ "\n" }
  | .help => { code := 0, output := String.join (helpLines.map (· ++ "\n")) }
  | .run a => match i.job a with
    | .error refusal => { code := 1, refusal := some refusal }
    | .ok job => job.run

end Audience
