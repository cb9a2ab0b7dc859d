import Audience.Timer

/-!
# Upkeep of the ledger on a clock

A `Keeper` is a ledger with a clock and a cleanup timer. The clock stands
still until the keeper sleeps or jumps; only then does the timer get to run.
A signal to end is seen before any tick that is due, and ends the timer for
good.
-/

namespace Audience

/-- A ledger with its clock and timer. -/
structure Keeper where
  clock : Nat := 0
  ledger : Ledger := {}
  timer : Timer := .absent
deriving DecidableEq, Repr

namespace Keeper

/-- The keeper after a stretch of ticks. -/
def afterTicks (k : Keeper) (ticks : Ticks) : Keeper :=
  { k with ledger := ticks.ledger, timer := { k.timer with phase := .waiting ticks.deadline } }

/-- The keeper whose timer has ended. -/
def ended (k : Keeper) : Keeper :=
  { k with timer := { k.timer with phase := .ended, line := k.timer.line.drained } }

/-- A keeper at the start of the clock, and what is noted when its interval is too short. -/
def create (interval threshold : Nat) : Keeper × List Note :=
  ({ timer := { interval, threshold } },
    if interval < Timer.minPeriod then [.intervalRaised interval Timer.minPeriod] else [])

/-- Lets the timer work at the clock, from a deadline on. -/
def attend (k : Keeper) (deadline : Nat) : Keeper × List Note :=
  let stint := Timer.attend k.timer.interval k.timer.threshold k.clock deadline k.timer.line k.ledger
  ({ k with
      ledger := stint.ledger
      timer := { k.timer with phase := stint.phase, line := stint.line } },
    stint.notes)

/-- Lets the timer run with the clock where it is. -/
def run (k : Keeper) : Keeper × List Note :=
  match k.timer.phase with
  | .ended => (k, [])
  | .unstarted =>
    let (after, notes) := k.attend k.clock
    (after, .cleanupStarted k.timer.period k.timer.threshold :: notes)
  | .waiting deadline => k.attend deadline

/-- Fires what is due at the clock, from a deadline on. -/
def fire (k : Keeper) (deadline : Nat) : Keeper × List Note :=
  let ticks := Timer.fireDue k.timer.interval k.timer.threshold k.clock deadline k.ledger
  (k.afterTicks ticks, ticks.notes)

/-- A timer at work ends if it was signalled to, and fires what is due if not. -/
theorem attend_eq (k : Keeper) (deadline : Nat) :
    k.attend deadline =
      if k.timer.line.isSilent then k.fire deadline else (k.ended, [.cleanupStopped]) := by
  cases h : k.timer.line.isSilent with
  | true =>
    rw [attend, Timer.attend_of_isSilent h]
    rfl
  | false =>
    rw [attend, Timer.attend_of_signalled h]
    rfl

/-- Lets the ticks before `wake` fire at their times. -/
def tickUntil (wake : Nat) (k : Keeper) : Keeper × List Note :=
  match k.timer.phase with
  | .waiting deadline =>
    let ticks := Timer.fireUntil k.timer.interval k.timer.threshold wake deadline k.ledger
    (k.afterTicks ticks, ticks.notes)
  | _ => (k, [])

/-- Sleeps for a span, at most the longest wait, to the clock's grain; a span of zero is no sleep. A
tick due at the moment of waking has not fired yet. -/
def sleep (span : Nat) (k : Keeper) : Keeper × List Note :=
  if span = 0 then (k, [])
  else
    let wake := Time.ceilMs (k.clock + min span Time.longestWait)
    let (started, notes) := k.run
    let (ticked, more) := started.tickUntil wake
    ({ ticked with clock := wake }, notes ++ more)

/-- Moves the clock in one step and lets the timer run. -/
def jump (span : Nat) (k : Keeper) : Keeper × List Note :=
  { k with clock := k.clock + span }.run

/-- Signals to the timer to end when it next gets to run. -/
def stop (k : Keeper) : Keeper := { k with timer := { k.timer with line := k.timer.line.send } }

/-- Lets go of the timer, which ends it just as well. -/
def release (k : Keeper) : Keeper := { k with timer := { k.timer with line := k.timer.line.close } }

/-- Signals to the timer to end and waits until it has. -/
def shutdown (k : Keeper) : Keeper × List Note := k.stop.run

/-- Sweeps outside the schedule as of an instant; how many filters it removed. -/
def sweepAsOf (now : Int) (threshold : Nat) (k : Keeper) : Keeper × Nat × Note :=
  let (left, note) := k.ledger.sweepNoted false now threshold
  ({ k with ledger := left }, k.ledger.size - left.size, note)

/-- Sweeps outside the schedule. -/
def sweep (threshold : Nat) (k : Keeper) : Keeper × Nat × Note := k.sweepAsOf k.clock threshold

/-- One more holder of a filter; whether it is the first. -/
def subscribe (filter : String) (k : Keeper) : Keeper × Bool :=
  let (ledger, first) := k.ledger.subscribe filter
  ({ k with ledger }, first)

/-- One holder of a filter less; whether it was the last. -/
def unsubscribe (filter : String) (k : Keeper) : Keeper × Bool :=
  let (ledger, last) := k.ledger.unsubscribe k.clock filter
  ({ k with ledger }, last)

end Keeper

end Audience
