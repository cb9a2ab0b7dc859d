import Audience.Tracker

/-!
# Replaying scripts

A script is replayed on a tracker, and what its queries find is written to a
sink, a line each. The first line that the sink has no room for ends the
replay, with as much of the line written as fits; at the end the sink is
flushed.
-/

namespace Audience

/-- What a command finds. -/
inductive Finding where
  | subscribers (topic : String) (found : Bool)
  | size (tracked active : Nat)
  | swept (removed : Nat)
deriving DecidableEq, Repr

/-- The line for a finding. -/
def Finding.line : Finding → String
  | .subscribers topic found => s!"has {topic} {found}"
  | .size tracked active => s!"size {tracked} (active {active})"
  | .swept removed => s!"sweep removed {removed}"

/-! ## Commands -/

/-- What a command leaves: the tracker, what it found and what was noted. -/
structure Performed where
  tracker : Tracker
  finding : Option Finding := none
  notes : List Note := []
  halt : Option Halt := none

namespace Tracker

/-- A change as a command without a finding. -/
def performedOf (c : Changed) : Performed :=
  { tracker := c.tracker, notes := c.notes, halt := c.halt }

/-- Carries out a command. -/
def perform (t : Tracker) : Command → Performed
  | .subscribe filter => performedOf (t.subscribe filter)
  | .unsubscribe filter => performedOf (t.unsubscribe filter)
  | .query topic =>
    let (found, note) := t.query topic
    { tracker := t, finding := some (.subscribers topic found), notes := [note] }
  | .size => { tracker := t, finding := some (.size t.size t.active) }
  | .sweep =>
    let (swept, removed, note) := t.sweep
    { tracker := swept, finding := some (.swept removed), notes := [note] }
  | .sleep span =>
    let (later, notes) := t.sleep span
    { tracker := later, notes }

end Tracker

/-! ## The sink -/

/-- Why a replay ended early. -/
inductive PlaybackFault where
  | sinkFull
  | flushFailed
  | halted (halt : Halt)
deriving DecidableEq, Repr

def PlaybackFault.reason : PlaybackFault → String
  | .sinkFull => "sink full"
  | .flushFailed => "flush failed"
  | .halted (.aborted reason) => reason
  | .halted .nestedTooDeep => "listeners nested too deep"

def PlaybackFault.message (f : PlaybackFault) : String := s!"IO error: {f.reason}"

/-- Where lines are written: the bytes there is room for, if that is limited, and whether flushing
fails. -/
structure Sink where
  room : Option Nat := none
  flushFails : Bool := false
deriving DecidableEq, Repr

namespace Sink

/-- The bytes that characters take. -/
def byteSize (cs : List Char) : Nat := cs.foldl (fun size c => size + c.utf8Size) 0

/-- The characters that fit into `room` bytes; one of which only a part fits is replaced. -/
def fitting (room : Nat) : List Char → List Char
  | [] => []
  | c :: cs =>
    if c.utf8Size ≤ room then c :: fitting (room - c.utf8Size) cs
    else if 0 < room then ['\uFFFD'] else []

/-- What a sink takes of some characters, what it is after that, and whether it was too small. -/
def write (cs : List Char) (s : Sink) : List Char × Sink × Option PlaybackFault :=
  match s.room with
  | none => (cs, s, none)
  | some room =>
    if byteSize cs ≤ room then (cs, { s with room := some (room - byteSize cs) }, none)
    else (fitting room cs, { s with room := some 0 }, some .sinkFull)

/-- Writes the line of a finding, if there is one. -/
def writeFinding (finding : Option Finding) (s : Sink) : List Char × Sink × Option PlaybackFault :=
  match finding with
  | none => ([], s, none)
  | some f => s.write (f.line.toList ++ ['\n'])

end Sink

/-! ## Replays -/

/-- What a replay, or a command of it, leaves. The output is what the sink took of the findings. -/
structure Played where
  tracker : Tracker
  sink : Sink
  findings : List Finding := []
  output : List Char := []
  notes : List Note := []
  fault : Option PlaybackFault := none

/-- A replay that went on from where another stopped. -/
def Played.andThen (p q : Played) : Played :=
  { q with
    findings := p.findings ++ q.findings
    output := p.output ++ q.output
    notes := p.notes ++ q.notes }

namespace Playback

/-- Notes a command, carries it out and writes what it found. -/
def step (tracker : Tracker) (sink : Sink) (command : Command) : Played :=
  let performed := tracker.perform command
  let (output, sink, full) := sink.writeFinding performed.finding
  { tracker := performed.tracker
    sink
    findings := performed.finding.toList
    output
    notes := .replaying command :: performed.notes
    fault := match performed.halt with
      | some halt => some (.halted halt)
      | none => full }

/-- Flushes the sink at the end. -/
def finish (tracker : Tracker) (sink : Sink) : Played :=
  { tracker, sink, fault := if sink.flushFails then some .flushFailed else none }

/-- Carries out commands in order, up to the first that fails. -/
def run (tracker : Tracker) (sink : Sink) : List Command → Played
  | [] => finish tracker sink
  | command :: commands =>
    let played := step tracker sink command
    match played.fault with
    | some _ => played
    | none => played.andThen (run played.tracker played.sink commands)

end Playback

end Audience
