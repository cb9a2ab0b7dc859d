import Audience.Number.Numeral
import Audience.Text.Blank
import Audience.Text.Quoted
import Audience.Text.Split
import Audience.Time

/-!
# Event scripts

A script has a command a line: a verb and, for most, an argument after white
space. Blank lines and lines that start with a hash say nothing. Reading stops
at the first line that is no command and reports its number.
-/

namespace Audience

/-- A step of a script. -/
inductive Command where
  | subscribe (filter : String)
  | unsubscribe (filter : String)
  | query (topic : String)
  | size
  | sweep
  | sleep (span : Nat)
deriving DecidableEq, Repr

/-- What is wrong with a line. -/
inductive CommandFault where
  | needsArgument (verb : String)
  | badSpan (argument : String)
  | unknownVerb (verb : String)
deriving DecidableEq, Repr

def CommandFault.message : CommandFault → String
  | .needsArgument verb => s!"'{verb}' needs an argument"
  | .badSpan argument => s!"invalid sleep duration '{argument}'"
  | .unknownVerb verb => s!"unknown command '{verb}'"

namespace Command

/-- The command as the log shows it. -/
def display : Command → String
  | .subscribe filter => s!"Subscribe({Text.quote filter})"
  | .unsubscribe filter => s!"Unsubscribe({Text.quote filter})"
  | .query topic => s!"HasSubscribers({Text.quote topic})"
  | .size => "Size"
  | .sweep => "Sweep"
  | .sleep span => s!"Sleep({Time.briefText span})"

/-- A command whose argument must not be empty. -/
def withArgument (verb argument : List Char) (make : String → Except CommandFault Command) :
    Except CommandFault Command :=
  if argument.isEmpty then .error (.needsArgument (String.ofList verb))
  else make (String.ofList argument)

/-- A span in seconds. -/
def ofSeconds (argument : String) : Except CommandFault Command :=
  match (Binary64.ofText? argument.toList).bind Time.ofSeconds? with
  | some span => .ok (.sleep span)
  | none => .error (.badSpan argument)

/-- The command of a verb and an argument, white space around both taken off. -/
def ofVerb (verb argument : List Char) : Except CommandFault Command :=
  match String.ofList verb with
  | "sub" => withArgument verb argument fun filter => .ok (.subscribe filter)
  | "unsub" => withArgument verb argument fun filter => .ok (.unsubscribe filter)
  | "has" => withArgument verb argument fun topic => .ok (.query topic)
  | "size" => .ok .size
  | "sweep" => .ok .sweep
  | "sleep" => withArgument verb argument ofSeconds
  | other => .error (.unknownVerb other)

/-- The command of a line, if it says anything. -/
def ofChars (line : List Char) : Except CommandFault (Option Command) :=
  match Text.trim line with
  | [] => .ok none
  | '#' :: _ => .ok none
  | cs =>
    let verb := cs.takeWhile (!Text.isBlank ·)
    let argument := Text.trim (cs.dropWhile (!Text.isBlank ·))
    (ofVerb verb argument).map some

/-- The command of a line, if it says anything. -/
def parse (line : String) : Except CommandFault (Option Command) := ofChars line.toList

end Command

/-- A line that is no command. -/
structure ScriptFault where
  line : Nat
  fault : CommandFault
deriving DecidableEq, Repr

def ScriptFault.message (f : ScriptFault) : String := s!"line {f.line}: {f.fault.message}"

/-- The fault with its fields named. -/
def ScriptFault.display (f : ScriptFault) : String :=
  let fields := s!"line: {f.line}, message: {Text.quote f.fault.message}"
  "Parse \x7b " ++ fields ++ " \x7d"

namespace Script

/-- The commands of lines, counted from `number`. -/
def ofLines (number : Nat) : List (List Char) → Except ScriptFault (List Command)
  | [] => .ok []
  | line :: rest => match Command.ofChars line with
    | .error fault => .error ⟨number, fault⟩
    | .ok none => ofLines (number + 1) rest
    | .ok (some command) => (ofLines (number + 1) rest).map (command :: ·)

/-- The commands of a script. A carriage return before a line end is white space to trim. -/
def parse (script : String) : Except ScriptFault (List Command) :=
  ofLines 1 (Text.split '\n' script.toList)

end Script

end Audience
