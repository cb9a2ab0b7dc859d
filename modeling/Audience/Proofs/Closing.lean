import Audience.Proofs.Gate
import Audience.Proofs.Interchange
import Audience.Proofs.Stopping

/-!
# Closing a broker

A stop ends cleanup first, and then calls on the engine to close, whatever that
makes of it (`Broker.Closes`). Of the tracker it changes nothing but the timer,
which has ended then, without another sweep (`Broker.closes`).

So what comes later goes as it would have without the stop. `Tracker.Indistinct`
says of a relation of trackers that calls keep it, and that whoever makes them
finds and is told the same, apart from what a view leaves out of the notes;
`Broker.replies_eq` says that brokers with such trackers give the same replies
to the same acts. Trackers that are the `Same` do so in every note while the
clock stands still, whatever the listener does; those that are `Alike` in the
answers, with upkeep or without, if the listener does not act on the size.
-/

namespace Audience

/-! ## The last that a timer notes -/

/-- What a timer notes that gets to run after it was signalled to. -/
def Timer.lastNotes (t : Timer) : List Note :=
  match t.phase with
  | .unstarted => [.cleanupStarted t.period t.threshold, .cleanupStopped]
  | .waiting _ => [.cleanupStopped]
  | .ended => []

theorem Keeper.notes_shutdown (k : Keeper) : k.shutdown.2 = k.timer.lastNotes := by
  have hsignal : k.stop.timer.line.isSilent = false := rfl
  show k.stop.run.2 = _
  unfold Keeper.run Timer.lastNotes
  rw [show k.stop.timer.phase = k.timer.phase from rfl]
  cases k.timer.phase with
  | unstarted =>
    simp only [attend_of_signalled hsignal]
    rfl
  | waiting deadline => simp only [attend_of_signalled hsignal]
  | ended => rfl

theorem Keeper.clock_shutdown (k : Keeper) : k.shutdown.1.clock = k.clock := k.stop.clock_run

namespace Tracker

theorem isRunning_of_ended {t : Tracker} (h : t.keeper.timer.phase = .ended) :
    t.isRunning = false := by
  rw [isRunning, Timer.isRunning, h]
  rfl

/-- A shutdown leaves a tracker the same but for its timer. -/
theorem same_shutdown {t : Tracker} (sound : t.ledger.Sound) : t.shutdown.1.Same t where
  listener := rfl
  clock := t.keeper.clock_shutdown
  ledger := by
    have hledger : t.shutdown.1.ledger = t.ledger := t.keeper.shutdown_ends.2.ledger
    rw [hledger]
    exact .refl sound

/-! ## What calls cannot tell apart -/

/-- Relations of trackers that are kept by calls, and that those who make them cannot tell from what
they find, nor from the notes as far as a view shows them. -/
structure Indistinct (view : Note → Option Note) (R : Tracker → Tracker → Prop) : Prop where
  found : ∀ {t u}, R t u → ∀ topic, t.hasAudience topic = u.hasAudience topic
  kept : ∀ {t u}, R t u → ∀ turn filter,
    R (t.change nestingLimit turn filter).tracker (u.change nestingLimit turn filter).tracker
  halted : ∀ {t u}, R t u → ∀ turn filter,
    (t.change nestingLimit turn filter).halt = (u.change nestingLimit turn filter).halt
  noted : ∀ {t u}, R t u → ∀ turn filter,
    (t.change nestingLimit turn filter).notes.filterMap view =
      (u.change nestingLimit turn filter).notes.filterMap view

theorem indistinct_same : Indistinct some Same where
  found h := h.hasAudience
  kept h turn filter := (same_change h _ turn filter).tracker
  halted h turn filter := (same_change h _ turn filter).halt
  noted h turn filter := congrArg (List.filterMap some) (same_change h _ turn filter).notes

theorem indistinct_alike : Indistinct Note.answer? Alike where
  found h := h.hasAudience
  kept h turn filter := (alike_change h _ turn filter).tracker
  halted h turn filter := (alike_change h _ turn filter).halt
  noted h turn filter := (alike_change h _ turn filter).notes

end Tracker

namespace Broker

/-! ## Replies -/

/-- Whether an act is for upkeep, and neither changes nor finds out who holds what. -/
def Act.isUpkeep (act : Act) : Bool := act.request?.any (·.isUpkeep)

/-- What whoever lets an act happen gets to see of it. -/
@[ext]
structure Reply where
  halt : Option Halt
  result : Option (Except BrokerError Bool)
  notes : List Note

/-- How an act ends, if it has a result. -/
def result? (b : Broker) : Act → Option (Except BrokerError Bool)
  | .query topic => some (.ok (b.tracker.hasAudience topic))
  | .publish topic payload => some ((b.publish topic payload).1.map fun _ => true)
  | .offer topic build => some (b.offer topic build).1
  | .start => some (b.start.1.map fun _ => true)
  | .stop => some (b.stop.2.1.map fun _ => true)
  | .subscribe .. | .unsubscribe .. | .sweep | .sleep _ | .jump _ | .engine _ => none

def reply (view : Note → Option Note) (b : Broker) (act : Act) : Reply where
  halt := act.request?.bind b.tracker.halt?
  result := b.result? act
  notes := (b.act act).2.filterMap view

/-- The replies to acts that happen in order, those for upkeep passed over. -/
def replies (view : Note → Option Note) : List Act → Broker → List Reply
  | [], _ => []
  | act :: acts, b =>
    let rest := replies view acts (b.act act).1
    if act.isUpkeep then rest else b.reply view act :: rest

/-- Brokers with the same engine and related trackers. -/
structure Related (R : Tracker → Tracker → Prop) (b c : Broker) : Prop where
  engine : b.engine = c.engine
  tracker : R b.tracker c.tracker

variable {view : Note → Option Note} {R : Tracker → Tracker → Prop} {b c : Broker}

/-- An act gets the same reply from brokers with trackers that calls cannot tell apart. -/
theorem reply_eq (indistinct : Tracker.Indistinct view R) (h : Related R b c) {act : Act}
    (visible : act.isUpkeep = false) :
    b.reply view act = c.reply view act ∧ Related R (b.act act).1 (c.act act).1 := by
  have hfound := indistinct.found h.tracker
  have hnoted (turn : Turn) (filter : String) (first : Note) :
      (first :: (b.tracker.change Tracker.nestingLimit turn filter).notes).filterMap view =
        (first :: (c.tracker.change Tracker.nestingLimit turn filter).notes).filterMap view := by
    rw [List.filterMap_cons, List.filterMap_cons, indistinct.noted h.tracker turn filter]
  cases act with
  | subscribe filter client qos =>
    exact ⟨Reply.ext (indistinct.halted h.tracker .first filter) rfl (hnoted .first filter _),
      h.engine, indistinct.kept h.tracker .first filter⟩
  | unsubscribe filter client =>
    exact ⟨Reply.ext (indistinct.halted h.tracker .last filter) rfl (hnoted .last filter _),
      h.engine, indistinct.kept h.tracker .last filter⟩
  | query topic =>
    refine ⟨?_, h⟩
    simp only [reply, Act.request?, result?, act, Tracker.query, hfound]
    rfl
  | publish topic payload =>
    refine ⟨?_, h⟩
    simp only [reply, Act.request?, result?, act, publish, h.engine]
    rfl
  | offer topic build =>
    refine ⟨?_, h⟩
    simp only [reply, Act.request?, result?, act, offer, Tracker.query, hfound, h.engine]
    rfl
  | start =>
    refine ⟨?_, h⟩
    simp only [reply, Act.request?, result?, act, start, h.engine]
    rfl
  | engine engine => exact ⟨rfl, rfl, h.tracker⟩
  | sweep | sleep | jump | stop => cases visible

/-- So do acts in order, as long as those for upkeep among them leave the trackers related. -/
theorem replies_eq (indistinct : Tracker.Indistinct view R) {acts : List Act}
    (upkeep : ∀ act ∈ acts, act.isUpkeep = true → ∀ {b c : Broker}, Related R b c →
      Related R (b.act act).1 (c.act act).1)
    (h : Related R b c) :
    b.replies view acts = c.replies view acts ∧ Related R (b.run acts).1 (c.run acts).1 := by
  induction acts generalizing b c with
  | nil => exact ⟨rfl, h⟩
  | cons act acts ih =>
    obtain ⟨hact, hacts⟩ := List.forall_mem_cons.1 upkeep
    simp only [replies, run_cons]
    cases hupkeep : act.isUpkeep with
    | true => exact ih hacts (hact hupkeep h)
    | false =>
      obtain ⟨hreply, hnext⟩ := reply_eq indistinct h hupkeep
      obtain ⟨hreplies, hrun⟩ := ih hacts hnext
      exact ⟨congrArg₂ List.cons hreply hreplies, hrun⟩

/-- Upkeep leaves trackers alike. -/
theorem alike_act_of_isUpkeep {act : Act} (hupkeep : act.isUpkeep = true)
    (h : Related Tracker.Alike b c) : Related Tracker.Alike (b.act act).1 (c.act act).1 := by
  have hserve (request : Tracker.Request) (hrequest : request.isUpkeep = true) :
      (b.tracker.serve request).1.Alike (c.tracker.serve request).1 :=
    Tracker.alike_serve_of_isUpkeep
      (Tracker.alike_serve_of_isUpkeep h.tracker.symm hrequest).symm hrequest
  cases act with
  | sweep => exact ⟨h.engine, hserve (.command .sweep) rfl⟩
  | sleep span => exact ⟨h.engine, hserve (.command (.sleep span)) rfl⟩
  | jump span => exact ⟨h.engine, hserve (.jump span) rfl⟩
  | stop => exact ⟨h.engine, hserve .shutdown rfl⟩
  | subscribe | unsubscribe | query | publish | offer | start | engine => cases hupkeep

/-! ## A stop -/

/-- What a stop does to a broker, whatever the engine makes of it. -/
structure Closes (b : Broker) : Prop where
  /-- The engine is called when cleanup has noted its last. -/
  notes : b.stop.2.2 =
    .engineStopping :: b.tracker.keeper.timer.lastNotes ++ [.engineCalled .close]
  ended : b.tracker.isRunning = true →
    ∃ before, b.stop.2.2 = before ++ [.cleanupStopped, .engineCalled .close]
  calls : b.stop.2.2.filterMap (·.engineCall?) = [.close]
  succeeded : b.stop.2.1 = .ok () ↔ b.engine.close = none
  failed : ∀ reason, b.stop.2.1 = .error (.engine reason) ↔ b.engine.close = some reason
  unswept : sweepsIn b.stop.2.2 = []
  untold : turnedIn b.stop.2.2 = []
  ledger : b.stop.1.tracker.ledger = b.tracker.ledger
  clock : b.stop.1.tracker.clock = b.tracker.clock
  listener : b.stop.1.tracker.listener = b.tracker.listener
  engine : b.stop.1.engine = b.engine
  options : b.stop.1.options = b.options
  stopped : b.stop.1.tracker.isRunning = false

theorem outcome_eq_ok_iff {α : Type} {failure : Option String} {value : α} :
    outcome failure value = .ok value ↔ failure = none := by
  cases failure <;> simp [outcome]

theorem outcome_eq_error_iff {α : Type} {failure : Option String} {value : α} {reason : String} :
    outcome failure value = .error (.engine reason) ↔ failure = some reason := by
  cases failure <;> simp [outcome]

theorem notes_stop (b : Broker) : b.stop.2.2 =
    .engineStopping :: b.tracker.keeper.timer.lastNotes ++ [.engineCalled .close] := by
  rw [← Keeper.notes_shutdown]
  rfl

theorem closes (b : Broker) : b.Closes := by
  have hends := b.tracker.keeper.shutdown_ends
  obtain ⟨hcalls, hunswept, huntold⟩ : b.stop.2.2.filterMap (·.engineCall?) = [.close] ∧
      sweepsIn b.stop.2.2 = [] ∧ turnedIn b.stop.2.2 = [] := by
    rw [notes_stop, Timer.lastNotes]
    cases b.tracker.keeper.timer.phase <;> exact ⟨rfl, rfl, rfl⟩
  refine ⟨notes_stop b, fun hrunning => ?_, hcalls, outcome_eq_ok_iff,
    fun _ => outcome_eq_error_iff, hunswept, huntold, hends.2.ledger,
    b.tracker.keeper.clock_shutdown, rfl, rfl, rfl, Tracker.isRunning_of_ended hends.1⟩
  rw [notes_stop, Timer.lastNotes]
  cases hphase : b.tracker.keeper.timer.phase with
  | unstarted => exact ⟨[.engineStopping, .cleanupStarted _ _], rfl⟩
  | waiting deadline => exact ⟨[.engineStopping], rfl⟩
  | ended => exact absurd ((Tracker.isRunning_of_ended hphase).symm.trans hrunning) Bool.false_ne_true

/-- A timer that has ended stays so. -/
theorem ended_run (h : b.tracker.keeper.timer.phase = .ended) (acts : List Act) :
    (b.run acts).1.tracker.keeper.timer.phase = .ended := by
  rw [tracker_run]
  exact Tracker.ended_run h _

/-! ## What that comes to -/

/-- Lets the clock move on without the timer getting to run. -/
def wait (span : Nat) (b : Broker) : Broker := { b with tracker := b.tracker.wait span }

/-- The brokers that can be reached, also by requests to their tracker that go past them. -/
inductive Reachable : Broker → Prop where
  | create {engine : Engine} {listener : Listener} {options : ListenOptions}
    {cleanup : CleanupOptions} {b : Broker} {notes : List Note} :
    create engine listener options cleanup = .ok (b, notes) → Reachable b
  | act {b : Broker} (act : Act) : Reachable b → Reachable (b.act act).1
  | serve {b : Broker} (request : Tracker.Request) : Reachable b → Reachable (b.serve request).1
  | wait {b : Broker} (span : Nat) : Reachable b → Reachable (b.wait span)

theorem Reachable.tracker (h : b.Reachable) : b.tracker.Reachable := by
  induction h with
  | create created =>
    rw [tracker_of_create created]
    exact .create _ _
  | @act b act _ ih =>
    rw [tracker_act]
    cases act.request? with
    | none => exact ih
    | some request => exact .serve request ih
  | serve request _ ih => exact .serve request ih
  | wait span _ ih => exact .wait span ih

/-- A stop of any reachable broker, cleanup running or not and with any number of ticks overdue,
ends cleanup and then calls on the engine to close, once, and ends as the engine says. Whether that
is well or not, every entry stays as it is, nothing is swept, the listener is told nothing and
cleanup is not running; and so for every stop that comes later. Whatever else comes later gets the
replies that it would have got without the stop, and the listener is told the same: any listener
while the clock stands still, and as upkeep goes on or does not, one that does not act on the size,
which the lack of sweeps shows in. -/
theorem closes_of_reachable (reachable : b.Reachable) :
    b.Closes ∧
    (∀ later,
      let again := (b.stop.1.run later).1
      again.Closes ∧ again.tracker.isRunning = false ∧
        again.stop.2.2 = [.engineStopping, .engineCalled .close]) ∧
    (∀ later, (∀ act ∈ later, act.isUpkeep = false) →
      b.stop.1.replies some later = b.replies some later ∧
        ∀ f, (b.stop.1.run later).1.tracker.ledger.find? f = (b.run later).1.tracker.ledger.find? f) ∧
    (b.tracker.listener.IgnoresSize → ∀ later,
      let stopped := (b.stop.1.run later).1.tracker
      let goesOn := (b.run later).1.tracker
      b.stop.1.replies Note.answer? later = b.replies Note.answer? later ∧
        (∀ topic, stopped.hasAudience topic = goesOn.hasAudience topic) ∧
        stopped.active = goesOn.active ∧
        ∀ f, stopped.ledger.holders f = goesOn.ledger.holders f) := by
  have hsound := reachable.tracker.sound
  refine ⟨closes b, fun later => ?_, fun later still => ?_, fun hignores later => ?_⟩
  · intro again
    have hended : again.tracker.keeper.timer.phase = .ended :=
      ended_run b.tracker.keeper.shutdown_ends.1 later
    refine ⟨closes again, Tracker.isRunning_of_ended hended, ?_⟩
    rw [notes_stop, Timer.lastNotes, hended]
    rfl
  · have hrelated : Related Tracker.Same b.stop.1 b := ⟨rfl, Tracker.same_shutdown hsound⟩
    obtain ⟨hreplies, hrun⟩ := replies_eq Tracker.indistinct_same
      (fun act hact hupkeep => absurd ((still act hact).symm.trans hupkeep) Bool.false_ne_true)
      hrelated
    exact ⟨hreplies, hrun.tracker.ledger.find?⟩
  · have hrelated : Related Tracker.Alike b.stop.1 b :=
      ⟨rfl, Tracker.alike_serve_of_isUpkeep (.refl hignores hsound)
        (rfl : Tracker.Request.shutdown.isUpkeep = true)⟩
    obtain ⟨hreplies, hrun⟩ := replies_eq Tracker.indistinct_alike
      (fun act _ hupkeep => alike_act_of_isUpkeep hupkeep) hrelated
    exact ⟨hreplies, hrun.tracker.hasAudience, hrun.tracker.active, hrun.tracker.holders⟩

/-- With ten seconds of ticks overdue and an engine that is offline, a stop fails and keeps a filter
that has long been idle, and what comes later goes on as without it. -/
theorem closes_with_engine_offline :
    let created : Broker := ⟨{ close := "offline" }, {}, (Tracker.create .silent ⟨0, 0⟩).1⟩
    let b := (((created.act (.subscribe "a" "wallet" 0)).1.act (.unsubscribe "a" "wallet")).1).wait
      (10 * Time.perSecond)
    let later : List Act :=
      [.jump Time.perSecond, .subscribe "a" "wallet" 0, .offer "a" fun _ => [1], .stop]
    b.Reachable ∧ b.tracker.listener.IgnoresSize ∧
      b.stop.2.1 = .error (.engine "offline") ∧
      b.stop.1.tracker.ledger.find? "a" = some ⟨"a", 0, some 0⟩ ∧
      b.stop.1.replies Note.answer? later = b.replies Note.answer? later ∧
      (b.stop.1.run later).1.stop.2.2 = [.engineStopping, .engineCalled .close] := by
  intro created b later
  have hreachable : b.Reachable :=
    .wait _ (.act _ (.act _ (.create (rfl : create created.engine .silent {} ⟨0, 0⟩ = .ok _))))
  have hignores : b.tracker.listener.IgnoresSize := fun _ => .done
  obtain ⟨hcloses, hagain, -, hlater⟩ := closes_of_reachable hreachable
  refine ⟨hreachable, hignores, (hcloses.failed "offline").2 rfl, ?_, (hlater hignores later).1,
    (hagain later).2.2⟩
  rw [hcloses.ledger]
  decide

end Broker

end Audience
