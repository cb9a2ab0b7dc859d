import Audience.LogLevel
import Audience.Script

/-!
# Notes

What operations do is noted, in order: sweeps, transitions, queries, calls on
the engine and the reports of listeners. The log is a view of the notes, in
which each has the lines that `Note.logLines` gives it, and so are the events
that embedding code sees.
-/

namespace Audience

/-- The two ways in which a filter's audience turns: it gains its first holder or loses its
last. -/
inductive Turn where
  | first
  | last
deriving DecidableEq, Repr

/-- A turn of the audience of a filter. -/
structure Transition where
  turn : Turn
  filter : String
deriving DecidableEq, Repr

/-- What a listener finds when it asks for the subscribers of a topic: whether there are any, and
how many filters are tracked. -/
structure Sight where
  found : Bool
  size : Nat
deriving DecidableEq, Repr

/-- What a listener reports on a transition, under a name of its own. -/
structure Report where
  label : String
  transition : Transition
  sight : Option Sight := none
deriving DecidableEq, Repr

/-- A call on the broker engine. -/
inductive EngineCall where
  | serve
  | close
  | publish (topic : String) (payload : List UInt8) (retain : Bool)
deriving DecidableEq, Repr

/-- A sweep: when it was as of, what it removed, and how many filters it left. -/
structure Sweep where
  scheduled : Bool
  instant : Int
  removed : List String
  remaining : Nat
deriving DecidableEq, Repr

/-- Something that happened. -/
inductive Note where
  | intervalRaised (interval minimum : Nat)
  | cleanupStarted (period threshold : Nat)
  | cleanupStopped
  | swept (sweep : Sweep)
  | turned (transition : Transition)
  | queried (topic : String) (found : Bool)
  | reported (report : Report)
  | announced (transition : Transition)
  | websocketListening (address : String)
  | tcpListening (address : String)
  | clientSubscribed (client filter : String) (qos : Nat)
  | clientUnsubscribed (client filter : String)
  | engineStarting
  | engineStopping
  | engineCalled (call : EngineCall)
  | payloadBuilt
  | publishSkipped (topic : String)
  | settingsLoaded (path : String)
  | replayStarted (commands interval threshold : Nat)
  | replaying (command : Command)
deriving DecidableEq, Repr

namespace Sweep

/-- The removed filters in order, and for a scheduled sweep that removed any their number. -/
def logLines (s : Sweep) : List (LogLevel × String) :=
  let removed := s.removed.mergeSort (fun a b => decide (a ≤ b))
  let lines := removed.map fun filter => (LogLevel.debug, s!"Removing stale topic filter {filter}")
  if s.scheduled ∧ s.removed ≠ [] then
    lines ++
      [(.debug, s!"Topic cleanup removed {s.removed.length} filters ({s.remaining} remaining)")]
  else lines

end Sweep

namespace Note

/-- What the log says of a transition that is announced to it. -/
def announcement : Transition → String
  | ⟨.first, filter⟩ => s!"First subscriber: {filter}"
  | ⟨.last, filter⟩ => s!"Last unsubscriber: {filter}"

/-- How the log writes the spans of cleanup. -/
def spans (interval threshold : Nat) : String :=
  s!"interval={Time.briefText interval}, threshold={Time.briefText threshold}"

/-- What the log says of an interval that is too short. -/
def belowMinimum (interval minimum : String) : String :=
  s!"Topic cleanup interval {interval} is below {minimum}, sweeping every {minimum}"

/-- The lines of the log for a note. -/
def logLines : Note → List (LogLevel × String)
  | .intervalRaised interval minimum =>
    [(.warn, belowMinimum (Time.briefText interval) (Time.briefText minimum))]
  | .cleanupStarted period threshold =>
    [(.info, s!"Topic cleanup started ({spans period threshold})")]
  | .cleanupStopped => [(.info, "Topic cleanup stopped")]
  | .swept sweep => sweep.logLines
  | .turned ⟨.first, filter⟩ => [(.debug, s!"First subscriber for topic filter {filter}")]
  | .turned ⟨.last, filter⟩ => [(.debug, s!"Last subscriber left topic filter {filter}")]
  | .queried topic found => [(.trace, s!"has_subscribers({topic}) = {found}")]
  | .reported _ => []
  | .announced transition => [(.info, announcement transition)]
  | .websocketListening address => [(.debug, s!"Websocket listener on {address}")]
  | .tcpListening address => [(.debug, s!"TCP listener on {address}")]
  | .clientSubscribed client filter qos =>
    [(.trace, s!"Client {client} subscribed to {filter} (qos={qos})")]
  | .clientUnsubscribed client filter => [(.trace, s!"Client {client} unsubscribed from {filter}")]
  | .engineStarting => [(.info, "Starting broker engine")]
  | .engineStopping => [(.info, "Stopping broker engine")]
  | .engineCalled _ => []
  | .payloadBuilt => []
  | .publishSkipped topic => [(.trace, s!"Skipping publish to {topic}: no subscribers")]
  | .settingsLoaded path => [(.info, s!"Loaded configuration from {Text.quote path}")]
  | .replayStarted commands interval threshold =>
    [(.info, s!"Replaying {commands} commands (cleanup {spans interval threshold})")]
  | .replaying command => [(.debug, s!"Replaying {command.display}")]

end Note

/-- The log of notes at a level. -/
def logAt (max : LogLevel) (notes : List Note) : List String :=
  ((notes.flatMap Note.logLines).filter fun line => max.shownAt line.1).map fun line =>
    s!"{line.1.label} {line.2}"

end Audience
