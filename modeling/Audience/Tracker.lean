import Audience.Listener
import Audience.Settings.Basic
import Audience.Topic
import Audience.Keeper

/-!
# The tracker

A tracker keeps the ledger and tells a listener when a filter gains its first
holder or loses its last. The listener is told at once, after the ledger has
changed, and may query and change the tracker in turn. When it aborts, what
has been changed stays changed, and the subscription that told it reports the
halt.

Changes that a listener makes nest `nestingLimit` deep at most. The bound is
the model's own: the tracker it describes has none, and changes that go on
nesting run there until the stack is used up.
-/

namespace Audience

/-- Why a change did not run to its end. -/
inductive Halt where
  | aborted (reason : String)
  /-- The bound that the model puts on nesting is reached. -/
  | nestedTooDeep
deriving DecidableEq, Repr

/-- A keeper with a listener. -/
structure Tracker where
  keeper : Keeper
  listener : Listener

/-- What a change leaves. -/
structure Changed where
  tracker : Tracker
  notes : List Note := []
  halt : Option Halt := none

/-- Puts notes in front of those of a change. -/
def Changed.after (c : Changed) (notes : List Note) : Changed :=
  { c with notes := notes ++ c.notes }

namespace Tracker

def ledger (t : Tracker) : Ledger := t.keeper.ledger

def clock (t : Tracker) : Nat := t.keeper.clock

/-- A tracker at the start of the clock. -/
def create (listener : Listener) (options : CleanupOptions) : Tracker × List Note :=
  let (keeper, notes) := Keeper.create options.interval options.threshold
  ({ keeper, listener }, notes)

/-- The cleanup options that the tracker was made with. -/
def options (t : Tracker) : CleanupOptions := ⟨t.keeper.timer.interval, t.keeper.timer.threshold⟩

/-! ## Queries -/

/-- Whether a filter with a holder covers the topic. -/
def hasAudience (t : Tracker) (topic : String) : Bool :=
  t.ledger.anyActive fun filter => Topic.covers filter topic

/-- A query with its note. -/
def query (t : Tracker) (topic : String) : Bool × Note :=
  let found := t.hasAudience topic
  (found, .queried topic found)

def size (t : Tracker) : Nat := t.ledger.size

def active (t : Tracker) : Nat := t.ledger.active

/-! ## Changes -/

/-- Changes the ledger by one holder; whether the filter's audience turned that way. -/
def count (turn : Turn) (filter : String) (t : Tracker) : Tracker × Bool :=
  let (keeper, turned) := match turn with
    | .first => t.keeper.subscribe filter
    | .last => t.keeper.unsubscribe filter
  ({ t with keeper }, turned)

/-- Carries out a reaction, where `change` carries out the changes it asks for. -/
def carryOut (change : Turn → String → Tracker → Changed) : Reaction → Tracker → Changed
  | .done, t => { tracker := t }
  | .note remark next, t => (carryOut change next t).after [remark.note]
  | .ask topic next, t =>
    let (found, note) := t.query topic
    (carryOut change (next ⟨found, t.size⟩) t).after [note]
  | .subscribe filter next, t =>
    let changed := change .first filter t
    match changed.halt with
    | some _ => changed
    | none => (carryOut change next changed.tracker).after changed.notes
  | .unsubscribe filter next, t =>
    let changed := change .last filter t
    match changed.halt with
    | some _ => changed
    | none => (carryOut change next changed.tracker).after changed.notes
  | .abort reason, t => { tracker := t, halt := some (.aborted reason) }

/-- One holder more or less, the listener told if that is a transition. Reactions that make
further changes nest up to `depth` deep. -/
def change : (depth : Nat) → Turn → String → Tracker → Changed
  | 0, _, _, t => { tracker := t, halt := some .nestedTooDeep }
  | depth + 1, turn, filter, t =>
    let (counted, turned) := t.count turn filter
    if turned then
      (carryOut (change depth) (t.listener.react ⟨turn, filter⟩) counted).after
        [.turned ⟨turn, filter⟩]
    else { tracker := counted }

/-- How deep changes made by listeners may nest in the model. -/
def nestingLimit : Nat := 1000

/-- Records a subscription. -/
def subscribe (filter : String) (t : Tracker) : Changed := t.change nestingLimit .first filter

/-- Records the end of a subscription; one that was not there is passed over. -/
def unsubscribe (filter : String) (t : Tracker) : Changed := t.change nestingLimit .last filter

/-! ## Upkeep -/

/-- Something the keeper does. -/
def keep (t : Tracker) (result : Keeper × List Note) : Tracker × List Note :=
  ({ t with keeper := result.1 }, result.2)

def sleep (span : Nat) (t : Tracker) : Tracker × List Note := t.keep (t.keeper.sleep span)

def jump (span : Nat) (t : Tracker) : Tracker × List Note := t.keep (t.keeper.jump span)

/-- Sweeps outside the schedule; how many filters were removed. -/
def sweep (t : Tracker) : Tracker × Nat × Note :=
  let (keeper, removed, note) := t.keeper.sweep t.keeper.timer.threshold
  ({ t with keeper }, removed, note)

/-- Asks for the end of scheduled sweeps; everything else goes on. -/
def stop (t : Tracker) : Tracker := { t with keeper := t.keeper.stop }

def shutdown (t : Tracker) : Tracker × List Note := t.keep t.keeper.shutdown

/-- Whether scheduled sweeps may still happen. -/
def isRunning (t : Tracker) : Bool := t.keeper.timer.isRunning

end Tracker

end Audience
