import Audience.Playback
import Audience.Proofs.Upkeep

/-!
# Runs of a tracker

A tracker serves `Request`s one after another: commands, jumps of the clock,
stops and shutdowns. Between requests whoever made them goes on, also when a
listener has aborted.

`Tracker.history` is what a run does to the ledger: the calls of the requests
and those that the listener makes in turn, each at its place, and the sweeps,
asked for or scheduled. `accounts_run` says that it accounts for the run, which
is what theorems about the ledger of a run start from.
-/

namespace Audience

/-- What a tracker can be asked for. -/
inductive Tracker.Request where
  | command (command : Command)
  | jump (span : Nat)
  | stop
  | shutdown
deriving DecidableEq, Repr

namespace Tracker

/-- Whether a request lets the timer run. -/
def Request.givesWay : Request → Bool
  | .command (.sleep span) => span != 0
  | .jump _ | .shutdown => true
  | .command _ | .stop => false

/-- Serves a request. -/
def serve (t : Tracker) : Request → Tracker × List Note
  | .command command => ((t.perform command).tracker, (t.perform command).notes)
  | .jump span => t.jump span
  | .stop => (t.stop, [])
  | .shutdown => t.shutdown

/-- Serves requests in order. -/
def run : List Request → Tracker → Tracker × List Note
  | [], t => (t, [])
  | request :: requests, t =>
    let (served, notes) := t.serve request
    let (last, more) := run requests served
    (last, notes ++ more)

theorem fst_run_append (t : Tracker) (requests more : List Request) :
    (t.run (requests ++ more)).1 = ((t.run requests).1.run more).1 := by
  induction requests generalizing t with
  | nil => rfl
  | cons request requests ih => exact ih (t.serve request).1

/-! ## What changes leave alone -/

/-- A reaction preserves what the changes it asks for preserve. -/
theorem carryOut_preserves (p : Tracker → Prop) {change : Turn → String → Tracker → Changed}
    (h : ∀ turn filter t, p t → p (change turn filter t).tracker) (reaction : Reaction)
    {t : Tracker} (ht : p t) : p (carryOut change reaction t).tracker := by
  induction reaction generalizing t with
  | done => exact ht
  | note remark next ih => exact ih ht
  | ask topic next ih => exact ih _ ht
  | subscribe filter next ih =>
    rw [carryOut]
    split
    · exact h .first filter t ht
    · exact ih (h .first filter t ht)
  | unsubscribe filter next ih =>
    rw [carryOut]
    split
    · exact h .last filter t ht
    · exact ih (h .last filter t ht)
  | abort reason => exact ht

/-- A change preserves what counting preserves, whatever the listener does. -/
theorem change_preserves (p : Tracker → Prop)
    (h : ∀ turn filter t, p t → p (t.count turn filter).1) (depth : Nat) (turn : Turn)
    (filter : String) {t : Tracker} (ht : p t) : p (t.change depth turn filter).tracker := by
  induction depth generalizing turn filter t with
  | zero => exact ht
  | succ depth ih =>
    simp only [change]
    split
    · exact carryOut_preserves p (fun turn filter _ => ih turn filter) _ (h turn filter t ht)
    · exact h turn filter t ht

theorem listener_change (depth : Nat) (turn : Turn) (filter : String) (t : Tracker) :
    (t.change depth turn filter).tracker.listener = t.listener :=
  change_preserves (·.listener = t.listener) (fun turn _ _ h => by cases turn <;> exact h)
    depth turn filter rfl

theorem clock_change (depth : Nat) (turn : Turn) (filter : String) (t : Tracker) :
    (t.change depth turn filter).tracker.clock = t.clock :=
  change_preserves (·.clock = t.clock) (fun turn _ _ h => by cases turn <;> exact h)
    depth turn filter rfl

theorem timer_change (depth : Nat) (turn : Turn) (filter : String) (t : Tracker) :
    (t.change depth turn filter).tracker.keeper.timer = t.keeper.timer :=
  change_preserves (·.keeper.timer = t.keeper.timer) (fun turn _ _ h => by cases turn <;> exact h)
    depth turn filter rfl

/-- What is true of transitions, queries and remarks is true of all that a reaction notes, if it is
of what the changes do that it asks for. -/
theorem notes_carryOut (p : Note → Prop) (remarks : ∀ remark : Remark, p remark.note)
    (queries : ∀ topic found, p (.queried topic found)) {change : Turn → String → Tracker → Changed}
    (h : ∀ turn filter t, ∀ note ∈ (change turn filter t).notes, p note) (reaction : Reaction)
    (t : Tracker) : ∀ note ∈ (carryOut change reaction t).notes, p note := by
  induction reaction generalizing t with
  | done => exact fun _ hmem => absurd hmem List.not_mem_nil
  | note remark next ih => exact List.forall_mem_cons.2 ⟨remarks remark, ih t⟩
  | ask topic next ih => exact List.forall_mem_cons.2 ⟨queries topic _, ih _ t⟩
  | subscribe filter next ih =>
    rw [carryOut]
    split
    · exact h .first filter t
    · exact List.forall_mem_append.2 ⟨h .first filter t, ih _⟩
  | unsubscribe filter next ih =>
    rw [carryOut]
    split
    · exact h .last filter t
    · exact List.forall_mem_append.2 ⟨h .last filter t, ih _⟩
  | abort reason => exact fun _ hmem => absurd hmem List.not_mem_nil

/-- What is true of transitions, queries and remarks is true of all that a change notes. -/
theorem notes_change (p : Note → Prop) (turns : ∀ transition, p (.turned transition))
    (remarks : ∀ remark : Remark, p remark.note) (queries : ∀ topic found, p (.queried topic found))
    (depth : Nat) (turn : Turn) (filter : String) (t : Tracker) :
    ∀ note ∈ (t.change depth turn filter).notes, p note := by
  induction depth generalizing turn filter t with
  | zero => exact fun _ hmem => absurd hmem List.not_mem_nil
  | succ depth ih =>
    simp only [change]
    split
    · exact List.forall_mem_cons.2 ⟨turns _, notes_carryOut p remarks queries ih _ _⟩
    · exact fun _ hmem => absurd hmem List.not_mem_nil

/-! ## Histories -/

/-- The calls made by a reaction, where `change` carries out the changes it asks for and `calls`
gives the calls of each. -/
def reactionCalls (change : Turn → String → Tracker → Changed)
    (calls : Turn → String → Tracker → List Event) : Reaction → Tracker → List Event
  | .done, _ => []
  | .note _ next, t => reactionCalls change calls next t
  | .ask topic next, t => reactionCalls change calls (next ⟨t.hasAudience topic, t.size⟩) t
  | .subscribe filter next, t =>
    calls .first filter t ++
      match (change .first filter t).halt with
      | some _ => []
      | none => reactionCalls change calls next (change .first filter t).tracker
  | .unsubscribe filter next, t =>
    calls .last filter t ++
      match (change .last filter t).halt with
      | some _ => []
      | none => reactionCalls change calls next (change .last filter t).tracker
  | .abort _, _ => []

/-- The call for one holder more or less, and those that the listener makes when it is told. -/
def calls : (depth : Nat) → Turn → String → Tracker → List Event
  | 0, _, _, _ => []
  | depth + 1, turn, filter, t =>
    let (counted, turned) := t.count turn filter
    .call t.clock turn filter turned ::
      if turned then
        reactionCalls (change depth) (calls depth) (t.listener.react ⟨turn, filter⟩) counted
      else []

/-- What a request does to the ledger. -/
def events (t : Tracker) : Request → List Event
  | .command (.subscribe filter) => t.calls nestingLimit .first filter
  | .command (.unsubscribe filter) => t.calls nestingLimit .last filter
  | .command .sweep => [.sweep t.clock]
  | request => sweepsIn (t.serve request).2

/-- What a run does to the ledger. -/
def history : List Request → Tracker → List Event
  | [], _ => []
  | request :: requests, t => t.events request ++ history requests (t.serve request).1

/-! ## Histories account for runs -/

theorem turned_count (turn : Turn) (filter : String) (t : Tracker) :
    (t.count turn filter).2 = turn.turnsAt (t.ledger.holders filter) := by
  cases turn with
  | first => rfl
  | last => exact Ledger.snd_unsubscribe t.clock t.ledger filter

/-- A call, before the listener is told. -/
theorem accounts_count (turn : Turn) (filter : String) (t : Tracker) :
    Accounts t.keeper (t.count turn filter).1.keeper
      (if (t.count turn filter).2 then [.turned ⟨turn, filter⟩] else [])
      [.call t.clock turn filter (t.count turn filter).2] where
  threshold := by cases turn <;> rfl
  ledger := by cases turn <;> rfl
  truthful := ⟨turned_count turn filter t, trivial⟩
  told := by cases (t.count turn filter).2 <;> rfl
  clock := by cases turn <;> exact Nat.le_refl _
  within := by
    intro event h
    obtain rfl := List.mem_singleton.1 h
    cases turn <;> exact ⟨Nat.le_refl _, Nat.le_refl _⟩
  sorted := List.pairwise_singleton _ _

theorem turnedIn_remark (remark : Remark) : turnedIn [remark.note] = [] := by
  cases remark <;> rfl

/-- A change, and then what the reaction goes on with unless the change has come to a halt. -/
theorem accounts_change_then {k : Keeper} {changed rest : Changed} {events more : List Event}
    (hchange : Accounts k changed.tracker.keeper changed.notes events)
    (hrest : Accounts changed.tracker.keeper rest.tracker.keeper rest.notes more) :
    let whole := match changed.halt with
      | some _ => changed
      | none => rest.after changed.notes
    Accounts k whole.tracker.keeper whole.notes
      (events ++ match changed.halt with
        | some _ => []
        | none => more) := by
  cases changed.halt with
  | some _ => simpa using hchange
  | none => exact hchange.trans hrest

/-- The calls of a reaction account for it if those of each change do. -/
theorem accounts_carryOut {change : Turn → String → Tracker → Changed}
    {calls : Turn → String → Tracker → List Event}
    (h : ∀ turn filter t, Accounts t.keeper (change turn filter t).tracker.keeper
      (change turn filter t).notes (calls turn filter t)) (reaction : Reaction) (t : Tracker) :
    Accounts t.keeper (carryOut change reaction t).tracker.keeper
      (carryOut change reaction t).notes (reactionCalls change calls reaction t) := by
  induction reaction generalizing t with
  | done => exact .refl _
  | note remark next ih => exact (ih t).after [remark.note] (turnedIn_remark remark)
  | ask topic next ih => exact (ih ⟨t.hasAudience topic, t.size⟩ t).after [.queried _ _] rfl
  | subscribe filter next ih => exact accounts_change_then (h .first filter t) (ih _)
  | unsubscribe filter next ih => exact accounts_change_then (h .last filter t) (ih _)
  | abort reason => exact .refl _

theorem accounts_change (depth : Nat) (turn : Turn) (filter : String) (t : Tracker) :
    Accounts t.keeper (t.change depth turn filter).tracker.keeper
      (t.change depth turn filter).notes (t.calls depth turn filter) := by
  -- The changes that the listener makes when it is told nest one less deep.
  induction depth generalizing turn filter t with
  | zero => exact .refl _
  | succ depth ih =>
    have hcount := accounts_count turn filter t
    simp only [change, calls]
    split
    · next hturned =>
      rw [hturned] at hcount ⊢
      exact hcount.trans (accounts_carryOut ih _ _)
    · next hturned =>
      rw [if_neg hturned] at hcount
      exact hcount

theorem accounts_serve (t : Tracker) (request : Request) :
    Accounts t.keeper (t.serve request).1.keeper (t.serve request).2 (t.events request) := by
  match request with
  | .command (.subscribe filter) => exact accounts_change _ .first filter t
  | .command (.unsubscribe filter) => exact accounts_change _ .last filter t
  | .command (.query topic) => exact (Accounts.refl _).after [.queried _ _] rfl
  | .command .size => exact .refl _
  | .command .sweep => exact t.keeper.accounts_sweep
  | .command (.sleep span) => exact t.keeper.accounts_sleep span
  | .jump span => exact t.keeper.accounts_jump span
  | .stop => exact t.keeper.accounts_stop
  | .shutdown => exact t.keeper.accounts_shutdown

/-- A run leaves the ledger that its history makes, and told the listener as the history says. -/
theorem accounts_run (t : Tracker) (requests : List Request) :
    Accounts t.keeper (t.run requests).1.keeper (t.run requests).2 (t.history requests) := by
  induction requests generalizing t with
  | nil => exact .refl _
  | cons request requests ih => exact (accounts_serve t request).trans (ih _)

end Tracker

end Audience
