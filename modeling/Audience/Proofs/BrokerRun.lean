import Audience.Broker
import Audience.Proofs.Run

/-!
# Runs of a broker

An `Act` is one thing that happens to a broker: the engine reports a client's
subscription or its end, someone queries, publishes or sweeps, or the clock
moves. What a run of acts leaves in the tracker is what the tracker's own run
of the `requests` among them leaves (`tracker_run`); the calls on the engine,
however they end, leave no trace there, and neither do the names of clients
(`tracker_run_of_unnamed_eq`).
-/

namespace Audience

namespace Broker

/-- Something that happens to a broker. -/
inductive Act where
  | subscribe (filter client : String) (qos : Nat)
  | unsubscribe (filter client : String)
  | query (topic : String)
  | publish (topic : String) (payload : List UInt8)
  | offer (topic : String) (build : Unit → List UInt8)
  | sweep
  | sleep (span : Nat)
  | jump (span : Nat)
  | start
  | stop
  | engine (engine : Engine)

/-- Serves a request of its tracker. -/
def serve (request : Tracker.Request) (b : Broker) : Broker × List Note :=
  let (tracker, notes) := b.tracker.serve request
  ({ b with tracker }, notes)

/-- Lets an act happen. -/
def act (b : Broker) : Act → Broker × List Note
  | .subscribe filter client qos =>
    let changed := b.clientSubscribed filter client qos
    ({ b with tracker := changed.tracker }, changed.notes)
  | .unsubscribe filter client =>
    let changed := b.clientUnsubscribed filter client
    ({ b with tracker := changed.tracker }, changed.notes)
  | .query topic => (b, [(b.tracker.query topic).2])
  | .publish topic payload => (b, (b.publish topic payload).2)
  | .offer topic build => (b, (b.offer topic build).2)
  | .sweep => b.serve (.command .sweep)
  | .sleep span => b.serve (.command (.sleep span))
  | .jump span => b.serve (.jump span)
  | .start => (b, b.start.2)
  | .stop => (b.stop.1, b.stop.2.2)
  | .engine engine => ({ b with engine }, [])

/-- Lets acts happen in order. -/
def run : List Act → Broker → Broker × List Note
  | [], b => (b, [])
  | act :: acts, b =>
    let (next, notes) := b.act act
    let (last, more) := run acts next
    (last, notes ++ more)

namespace Act

/-- What an act asks of the tracker, apart from queries. -/
def request? : Act → Option Tracker.Request
  | .subscribe filter _ _ => some (.command (.subscribe filter))
  | .unsubscribe filter _ => some (.command (.unsubscribe filter))
  | .sweep => some (.command .sweep)
  | .sleep span => some (.command (.sleep span))
  | .jump span => some (.jump span)
  | .stop => some .shutdown
  | .query _ | .publish _ _ | .offer _ _ | .start | .engine _ => none

/-- The act without the client's name and the quality of service that it asked for. -/
def unnamed : Act → Act
  | .subscribe filter _ _ => .subscribe filter "" 0
  | .unsubscribe filter _ => .unsubscribe filter ""
  | act => act

theorem request?_unnamed (act : Act) : act.unnamed.request? = act.request? := by
  cases act <;> rfl

end Act

/-- What acts ask of the tracker. -/
def requests (acts : List Act) : List Tracker.Request := acts.filterMap Act.request?

/-! ## The tracker of a run -/

theorem tracker_act (b : Broker) (act : Act) :
    (b.act act).1.tracker = (b.tracker.run act.request?.toList).1 := by
  cases act <;> rfl

theorem tracker_run (b : Broker) (acts : List Act) :
    (b.run acts).1.tracker = (b.tracker.run (requests acts)).1 := by
  induction acts generalizing b with
  | nil => rfl
  | cons act acts ih =>
    have hsplit : requests (act :: acts) = act.request?.toList ++ requests acts := by
      rw [requests, List.filterMap_cons]
      cases act.request? <;> rfl
    rw [hsplit, Tracker.fst_run_append, ← tracker_act]
    exact ih (b.act act).1

/-- Runs that differ in the names of clients and in their qualities of service alone leave the same
tracker. -/
theorem tracker_run_of_unnamed_eq (b : Broker) {acts more : List Act}
    (h : acts.map Act.unnamed = more.map Act.unnamed) :
    (b.run acts).1.tracker = (b.run more).1.tracker := by
  have hrequests : ∀ acts : List Act, requests (acts.map Act.unnamed) = requests acts := by
    intro acts
    rw [requests, List.filterMap_map]
    exact List.filterMap_congr fun act _ => act.request?_unnamed
  rw [tracker_run, tracker_run, ← hrequests acts, h, hrequests]

/-- A new broker has a new tracker. -/
theorem tracker_of_create {engine : Engine} {listener : Listener} {options : ListenOptions}
    {cleanup : CleanupOptions} {b : Broker} {notes : List Note}
    (h : create engine listener options cleanup = .ok (b, notes)) :
    b.tracker = (Tracker.create listener cleanup).1 := by
  unfold create at h
  split at h
  · cases h
  · cases h
    rfl

end Broker

end Audience
