import Audience.Proofs.BrokerRun
import Audience.Proofs.Counts

/-!
# The gate in front of the engine

A message is built and handed to the engine only if its topic is well formed
and somebody would get it. `Publishing` is what is seen of this from outside:
the result, how often the payload was built and the calls on the engine.

* `refused_offer`, `skipped_offer`, `delivered_offer` are the three ways in
  which an offer goes, `refused_publish` and `delivered_publish` the two of a
  publish that asks for nobody.
* `run_insert`: to publish leaves no trace. A run goes on behind it as if it
  had not been there, whatever the engine made of it.
* `gate_run` puts them together for every broker that a run reaches.
-/

namespace Audience

/-- The call on the engine, if the note is of one. -/
def Note.engineCall? : Note → Option EngineCall
  | .engineCalled call => some call
  | _ => none

namespace Broker

/-- What is seen of a publish: how it ended, how often its payload was built, and the calls on the
engine. -/
structure Publishing (α : Type) where
  result : Except BrokerError α
  builds : Nat
  calls : List EngineCall

namespace Publishing

variable {α : Type}

/-- What the notes of a publish show. -/
def seen (published : Except BrokerError α × List Note) : Publishing α where
  result := published.1
  builds := published.2.count .payloadBuilt
  calls := published.2.filterMap (·.engineCall?)

/-- Turned down for its topic, with nothing built and the engine left alone. -/
structure Refused (p : Publishing α) (fault : Topic.NameFault) : Prop where
  result : p.result = .error (.invalidTopic fault)
  builds : p.builds = 0
  calls : p.calls = []

/-- Passed over with the given answer, with nothing built and the engine left alone. -/
structure Skipped (p : Publishing α) (answer : α) : Prop where
  result : p.result = .ok answer
  builds : p.builds = 0
  calls : p.calls = []

/-- Handed to the engine once, not to be kept, and ended as the engine said. -/
structure Delivered (p : Publishing α) (engine : Engine) (topic : String) (payload : List UInt8)
    (answer : α) : Prop where
  calls : p.calls = [.publish topic payload false]
  accepted : engine.publish = none → p.result = .ok answer
  failed : ∀ reason, engine.publish = some reason → p.result = .error (.engine reason)

end Publishing

variable {b : Broker} {topic : String} {build : Unit → List UInt8} {payload : List UInt8}

/-! ## The ways through the gate -/

theorem offer_of_fault {fault : Topic.NameFault} (h : Topic.nameFault? topic = some fault) :
    b.offer topic build = (.error (.invalidTopic fault), []) := by
  simp only [offer, h]

theorem offer_of_nobody (valid : Topic.nameFault? topic = none)
    (nobody : b.tracker.hasAudience topic = false) :
    b.offer topic build = (.ok false, [.queried topic false, .publishSkipped topic]) := by
  simp [offer, valid, Tracker.query, nobody]

theorem offer_of_audience (valid : Topic.nameFault? topic = none)
    (audience : b.tracker.hasAudience topic = true) :
    b.offer topic build = (outcome b.engine.publish true,
      [.queried topic true, .payloadBuilt, .engineCalled (.publish topic (build ()) false)]) := by
  simp [offer, valid, Tracker.query, audience]

theorem publish_of_fault {fault : Topic.NameFault} (h : Topic.nameFault? topic = some fault) :
    b.publish topic payload = (.error (.invalidTopic fault), []) := by
  simp only [publish, h]

theorem publish_of_valid (valid : Topic.nameFault? topic = none) :
    b.publish topic payload = (outcome b.engine.publish (),
      [.engineCalled (.publish topic payload false)]) := by
  simp only [publish, valid]

theorem refused_offer {fault : Topic.NameFault} (h : Topic.nameFault? topic = some fault) :
    (Publishing.seen (b.offer topic build)).Refused fault := by
  rw [offer_of_fault h]
  exact ⟨rfl, rfl, rfl⟩

theorem refused_publish {fault : Topic.NameFault} (h : Topic.nameFault? topic = some fault) :
    (Publishing.seen (b.publish topic payload)).Refused fault := by
  rw [publish_of_fault h]
  exact ⟨rfl, rfl, rfl⟩

theorem skipped_offer (valid : Topic.nameFault? topic = none)
    (nobody : b.tracker.hasAudience topic = false) :
    (Publishing.seen (b.offer topic build)).Skipped false := by
  rw [offer_of_nobody valid nobody]
  exact ⟨rfl, rfl, rfl⟩

/-- Notes with one call on the engine and a result that is the engine's show a delivery. -/
theorem delivered_outcome {α : Type} (engine : Engine) (answer : α) {notes : List Note}
    (calls : notes.filterMap (·.engineCall?) = [.publish topic payload false]) :
    (Publishing.seen (outcome engine.publish answer, notes)).Delivered engine topic payload
      answer where
  calls := calls
  accepted h := by simp only [Publishing.seen, outcome, h]
  failed reason h := by simp only [Publishing.seen, outcome, h]

theorem delivered_offer (valid : Topic.nameFault? topic = none)
    (audience : b.tracker.hasAudience topic = true) :
    (Publishing.seen (b.offer topic build)).builds = 1 ∧
      (Publishing.seen (b.offer topic build)).Delivered b.engine topic (build ()) true := by
  rw [offer_of_audience valid audience]
  exact ⟨rfl, delivered_outcome b.engine true rfl⟩

theorem delivered_publish (valid : Topic.nameFault? topic = none) :
    (Publishing.seen (b.publish topic payload)).Delivered b.engine topic payload () := by
  rw [publish_of_valid valid]
  exact delivered_outcome b.engine () rfl

/-! ## What publishing leaves alone -/

/-- An act that publishes. -/
def Act.publishes : Act → Bool
  | .publish .. | .offer .. => true
  | _ => false

/-- A publish leaves the broker as it is, tells the listener nothing and sweeps nothing. -/
theorem act_of_publishes (b : Broker) {act : Act} (h : act.publishes = true) :
    (b.act act).1 = b ∧ turnedIn (b.act act).2 = [] ∧ sweepsIn (b.act act).2 = [] := by
  cases act with
  | publish topic payload =>
    refine ⟨rfl, ?_⟩
    cases valid : Topic.nameFault? topic with
    | some fault => rw [Broker.act, publish_of_fault valid]; exact ⟨rfl, rfl⟩
    | none => rw [Broker.act, publish_of_valid valid]; exact ⟨rfl, rfl⟩
  | offer topic build =>
    refine ⟨rfl, ?_⟩
    cases valid : Topic.nameFault? topic with
    | some fault => rw [Broker.act, offer_of_fault valid]; exact ⟨rfl, rfl⟩
    | none =>
      cases found : b.tracker.hasAudience topic with
      | true => rw [Broker.act, offer_of_audience valid found]; exact ⟨rfl, rfl⟩
      | false => rw [Broker.act, offer_of_nobody valid found]; exact ⟨rfl, rfl⟩
  | _ => cases h

theorem run_cons (b : Broker) (act : Act) (acts : List Act) :
    b.run (act :: acts) = (((b.act act).1.run acts).1,
      (b.act act).2 ++ ((b.act act).1.run acts).2) := rfl

theorem run_append (b : Broker) (acts more : List Act) :
    b.run (acts ++ more) = (((b.run acts).1.run more).1,
      (b.run acts).2 ++ ((b.run acts).1.run more).2) := by
  induction acts generalizing b with
  | nil => rfl
  | cons act acts ih => simp only [List.cons_append, run_cons, ih, List.append_assoc]

/-- With an act put into it that leaves the broker as it is, a run ends in the same broker, and
notes the same around what the act notes. -/
theorem run_insert_of_same (b : Broker) (acts later : List Act) {act : Act}
    (h : ((b.run acts).1.act act).1 = (b.run acts).1) :
    let reached := (b.run acts).1
    b.run (acts ++ later) = ((reached.run later).1, (b.run acts).2 ++ (reached.run later).2) ∧
      b.run (acts ++ act :: later) = ((reached.run later).1,
        (b.run acts).2 ++ ((reached.act act).2 ++ (reached.run later).2)) := by
  intro reached
  refine ⟨run_append b acts later, ?_⟩
  rw [run_append, run_cons, h]

/-- A publish is such an act. -/
theorem run_insert (b : Broker) (acts later : List Act) {act : Act} (h : act.publishes = true) :
    let reached := (b.run acts).1
    b.run (acts ++ later) = ((reached.run later).1, (b.run acts).2 ++ (reached.run later).2) ∧
      b.run (acts ++ act :: later) = ((reached.run later).1,
        (b.run acts).2 ++ ((reached.act act).2 ++ (reached.run later).2)) :=
  run_insert_of_same b acts later (act_of_publishes (b.run acts).1 h).1

/-! ## The gate of a reached broker -/

variable {engine : Engine} {listener : Listener} {options : ListenOptions}
  {cleanup : CleanupOptions} {notes : List Note}

/-- The tracker of a reached broker has an audience for what a counted filter covers. -/
theorem hasAudience_run_iff_count (created : create engine listener options cleanup = .ok (b, notes))
    (acts : List Act) (topic : String) :
    (b.run acts).1.tracker.hasAudience topic = true ↔
      ∃ f, 0 < ((b.run acts).1.tracker.ledger.count? f).getD 0 ∧ Topic.covers f topic = true := by
  have hcounts := Tracker.counts_run listener cleanup (requests acts)
  rw [← tracker_of_create created, ← tracker_run] at hcounts
  exact Ledger.anyActive_iff hcounts.sound _

/-- Wherever a run has brought a broker, and whatever its engine answers: a malformed topic is
turned down; an offer to a topic that no counted filter covers is passed over; any other publish is
handed to the engine once, with its payload built once if it was offered, and ends as the engine
says. None of this leaves a trace: the listener is told nothing, nothing is swept, and the run goes
on as it would have without. -/
theorem gate_run (created : create engine listener options cleanup = .ok (b, notes))
    (acts : List Act) (topic : String) (build : Unit → List UInt8) (payload : List UInt8) :
    let reached := (b.run acts).1
    let offered := Publishing.seen (reached.offer topic build)
    let published := Publishing.seen (reached.publish topic payload)
    let audience := ∃ f,
      0 < (reached.tracker.ledger.count? f).getD 0 ∧ Topic.covers f topic = true
    (∀ fault, Topic.nameFault? topic = some fault →
      offered.Refused fault ∧ published.Refused fault) ∧
    (Topic.nameFault? topic = none →
      (¬ audience → offered.Skipped false) ∧
      (audience → offered.builds = 1 ∧
        offered.Delivered reached.engine topic (build ()) true) ∧
      published.Delivered reached.engine topic payload ()) ∧
    ∀ act ∈ [Act.offer topic build, Act.publish topic payload],
      (reached.act act).1 = reached ∧
      turnedIn (reached.act act).2 = [] ∧ sweepsIn (reached.act act).2 = [] ∧
      ∀ later,
        b.run (acts ++ later) =
          ((reached.run later).1, (b.run acts).2 ++ (reached.run later).2) ∧
        b.run (acts ++ act :: later) =
          ((reached.run later).1,
            (b.run acts).2 ++ ((reached.act act).2 ++ (reached.run later).2)) := by
  intro reached offered published audience
  have haudience : reached.tracker.hasAudience topic = true ↔ audience :=
    hasAudience_run_iff_count created acts topic
  refine ⟨fun fault h => ⟨refused_offer h, refused_publish h⟩, fun valid => ⟨fun nobody => ?_,
    fun somebody => delivered_offer valid (haudience.2 somebody), delivered_publish valid⟩,
    fun act hact => ?_⟩
  · exact skipped_offer valid (Bool.eq_false_iff.2 fun h => nobody (haudience.1 h))
  · have hpublishes : act.publishes = true := by
      rcases List.mem_pair.1 hact with rfl | rfl <;> rfl
    obtain ⟨hstate, htold, hswept⟩ := act_of_publishes reached hpublishes
    exact ⟨hstate, htold, hswept, fun later => run_insert b acts later hpublishes⟩

/-- With an engine that is offline an offer to a held filter fails after its payload was built once,
and one with a wildcard in its topic is turned down before. -/
theorem gate_of_offline_engine :
    let b : Broker := ⟨{}, {}, (Tracker.create .silent {}).1⟩
    let reached := (b.run [.subscribe "blocks/+" "wallet" 0, .engine { publish := "offline" }]).1
    create {} .silent {} {} = .ok (b, [.websocketListening "localhost:1888"]) ∧
      (Publishing.seen (reached.offer "blocks/latest" fun _ => [1])).builds = 1 ∧
      (Publishing.seen (reached.offer "blocks/latest" fun _ => [1])).result =
        .error (.engine "offline") ∧
      (Publishing.seen (reached.offer "blocks/#" fun _ => [1])).Refused .wildcard := by
  intro b reached
  have hcreate : create {} .silent {} {} = .ok (b, [.websocketListening "localhost:1888"]) := rfl
  have hcovers : ∃ f, 0 < (reached.tracker.ledger.count? f).getD 0 ∧
      Topic.covers f "blocks/latest" = true := ⟨"blocks/+", by decide, by decide⟩
  obtain ⟨-, hvalid, -⟩ := gate_run hcreate _ "blocks/latest" (fun _ => [1]) []
  obtain ⟨hbuilds, hdelivered⟩ := (hvalid (by decide)).2.1 hcovers
  obtain ⟨hmalformed, -⟩ := gate_run hcreate _ "blocks/#" (fun _ => [1]) []
  exact ⟨hcreate, hbuilds, hdelivered.failed "offline" rfl, (hmalformed .wildcard (by decide)).1⟩

end Broker

end Audience
