import Audience.Topic.Check
import Audience.Tracker

/-!
# The broker

A broker stands between an engine, which owns connections and delivers
messages, and a tracker. The engine's events drive the tracker, and the
tracker decides whether a message is worth building: `offer`
calls the engine only for a topic that some filter with a holder covers.
-/

namespace Audience

/-- An engine's statistics. What an engine does not count stays zero. -/
structure EngineStats where
  version : String := ""
  uptime : Nat := 0
  clientsConnected : Nat := 0
  clientsTotal : Nat := 0
  clientsMaximum : Nat := 0
  subscriptions : Nat := 0
  retained : Nat := 0
  messagesReceived : Nat := 0
  messagesSent : Nat := 0
  messagesDropped : Nat := 0
  bytesReceived : Nat := 0
  bytesSent : Nat := 0
deriving DecidableEq, Repr

/-- What an engine answers: for each call the error it fails with, if it fails. -/
structure Engine where
  serve : Option String := none
  close : Option String := none
  publish : Option String := none
  stats : EngineStats := {}
deriving DecidableEq, Repr

/-- Why an operation of the broker failed. -/
inductive BrokerError where
  | invalidOptions (fault : Settings.OptionsFault)
  | invalidTopic (fault : Topic.NameFault)
  | engine (reason : String)
deriving DecidableEq, Repr

namespace BrokerError

def message : BrokerError → String
  | .invalidOptions fault => s!"Invalid broker options: {fault.message}"
  | .invalidTopic fault => s!"Invalid topic: {fault.message}"
  | .engine reason => s!"Broker engine error: {reason}"

/-- The engine's own words for an error that comes from it. -/
def source? : BrokerError → Option String
  | .engine reason => some reason
  | _ => none

end BrokerError

/-- An engine with a tracker. -/
structure Broker where
  engine : Engine
  options : ListenOptions
  tracker : Tracker

namespace Broker

/-- The listeners that are on. -/
def listening (o : ListenOptions) : List Note :=
  (if o.websocketEnabled then [.websocketListening o.websocketAddress] else []) ++
    if o.tcpEnabled then [.tcpListening o.tcpAddress] else []

/-- A broker at the start of the clock, if the options are usable. -/
def create (engine : Engine) (listener : Listener) (options : ListenOptions)
    (cleanup : CleanupOptions) : Except BrokerError (Broker × List Note) :=
  match Settings.optionsFault? options with
  | some fault => .error (.invalidOptions fault)
  | none =>
    let (tracker, notes) := Tracker.create listener cleanup
    .ok ({ engine, options, tracker }, listening options ++ notes)

/-! ## The engine's events -/

/-- A client subscribed. -/
def clientSubscribed (filter client : String) (qos : Nat) (b : Broker) : Changed :=
  (b.tracker.subscribe filter).after [.clientSubscribed client filter qos]

/-- A client unsubscribed. -/
def clientUnsubscribed (filter client : String) (b : Broker) : Changed :=
  (b.tracker.unsubscribe filter).after [.clientUnsubscribed client filter]

/-! ## Calls on the engine -/

/-- How a call on the engine ends. -/
def outcome {α : Type} (failure : Option String) (value : α) : Except BrokerError α :=
  match failure with
  | some reason => .error (.engine reason)
  | none => .ok value

/-- Runs the engine until it is closed. -/
def start (b : Broker) : Except BrokerError Unit × List Note :=
  (outcome b.engine.serve (), [.engineStarting, .engineCalled .serve])

/-- Ends cleanup and then closes the engine. -/
def stop (b : Broker) : Broker × Except BrokerError Unit × List Note :=
  let (tracker, notes) := b.tracker.shutdown
  ({ b with tracker }, outcome b.engine.close (),
    .engineStopping :: notes ++ [.engineCalled .close])

/-- Publishes a message, which is not kept, whoever is there. -/
def publish (topic : String) (payload : List UInt8) (b : Broker) :
    Except BrokerError Unit × List Note :=
  match Topic.nameFault? topic with
  | some fault => (.error (.invalidTopic fault), [])
  | none => (outcome b.engine.publish (), [.engineCalled (.publish topic payload false)])

/-- Builds and publishes a message if someone would get it; whether it did. -/
def offer (topic : String) (build : Unit → List UInt8) (b : Broker) :
    Except BrokerError Bool × List Note :=
  match Topic.nameFault? topic with
  | some fault => (.error (.invalidTopic fault), [])
  | none =>
    let (found, asked) := b.tracker.query topic
    if found then
      (outcome b.engine.publish true,
        [asked, .payloadBuilt, .engineCalled (.publish topic (build ()) false)])
    else (.ok false, [asked, .publishSkipped topic])

end Broker

end Audience
