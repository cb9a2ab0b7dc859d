import Audience.Proofs.SoundLedger
import Audience.Proofs.Turns

/-!
# Histories of a ledger

What happens to a ledger is a list of `Event`s: calls for one holder more or
less, each with whether the listener was told of it, and sweeps, each at its
instant. `Ledger.replay` carries a history out. For every filter it leaves the
holders that the calls on that filter alone add up to (`holders_replay`),
whatever happened to others and whatever was swept in between; and where each
call says truly whether it turned its filter's audience (`Truthful`), the
listener was told of exactly the turns among them (`turnsOf_toldIn`).
-/

namespace Audience

/-- Something that happens to a ledger. -/
inductive Event where
  | call (instant : Nat) (turn : Turn) (filter : String) (told : Bool)
  | sweep (instant : Nat)
deriving DecidableEq, Repr

namespace Event

def instant : Event → Nat
  | .call instant .. => instant
  | .sweep instant => instant

/-- The call on a filter, if the event is one. -/
def turnOn? (f : String) : Event → Option Turn
  | .call _ turn filter _ => if filter = f then some turn else none
  | .sweep _ => none

theorem turnOn?_eq_some_iff {f : String} {event : Event} {turn : Turn} :
    event.turnOn? f = some turn ↔ ∃ now told, event = .call now turn f told := by
  cases event with
  | call now t filter told => simp [turnOn?, and_comm]
  | sweep now => simp [turnOn?]

/-- The transition that the listener was told of. -/
def transition? : Event → Option Transition
  | .call _ turn filter true => some ⟨turn, filter⟩
  | _ => none

end Event

/-- Whether events come one after another. -/
abbrev InOrder (events : List Event) : Prop := events.Pairwise (·.instant ≤ ·.instant)

/-- The calls on a filter, in order. -/
def callsOn (f : String) (events : List Event) : List Turn := events.filterMap (·.turnOn? f)

/-- The number of holders that the calls on a filter add up to, from none on. -/
def tally (f : String) (events : List Event) : Nat := Turn.tally 0 (callsOn f events)

/-- The transitions that the listener was told of, in order. -/
def toldIn (events : List Event) : List Transition := events.filterMap (·.transition?)

/-- The turns of the audience of a filter, in order. -/
def turnsOf (f : String) (transitions : List Transition) : List Turn :=
  transitions.filterMap fun t => if t.filter = f then some t.turn else none

theorem callsOn_append (f : String) (events more : List Event) :
    callsOn f (events ++ more) = callsOn f events ++ callsOn f more :=
  List.filterMap_append

theorem callsOn_cons_call (f : String) (now : Nat) (turn : Turn) (filter : String) (told : Bool)
    (events : List Event) : callsOn f (.call now turn filter told :: events) =
      if filter = f then turn :: callsOn f events else callsOn f events := by
  simp only [callsOn, List.filterMap_cons, Event.turnOn?]
  split <;> simp_all

theorem callsOn_cons_sweep (f : String) (now : Nat) (events : List Event) :
    callsOn f (.sweep now :: events) = callsOn f events := rfl

theorem tally_append (f : String) (events more : List Event) :
    tally f (events ++ more) = Turn.tally (tally f events) (callsOn f more) := by
  rw [tally, callsOn_append, Turn.tally_append, tally]

theorem toldIn_append (events more : List Event) :
    toldIn (events ++ more) = toldIn events ++ toldIn more :=
  List.filterMap_append

theorem toldIn_cons_call (now : Nat) (turn : Turn) (filter : String) (told : Bool)
    (events : List Event) : toldIn (.call now turn filter told :: events) =
      if told then ⟨turn, filter⟩ :: toldIn events else toldIn events := by
  cases told <;> rfl

theorem turnsOf_cons (f : String) (t : Transition) (ts : List Transition) :
    turnsOf f (t :: ts) = if t.filter = f then t.turn :: turnsOf f ts else turnsOf f ts := by
  simp only [turnsOf, List.filterMap_cons]
  split <;> simp_all

namespace Ledger

/-! ## Carrying a history out -/

/-- The ledger after an event. -/
def apply (threshold : Nat) (l : Ledger) : Event → Ledger
  | .call _ .first filter _ => (l.subscribe filter).1
  | .call now .last filter _ => (l.unsubscribe now filter).1
  | .sweep now => (l.sweep now threshold).1

/-- The ledger after a history. -/
def replay (threshold : Nat) (events : List Event) (l : Ledger) : Ledger :=
  events.foldl (apply threshold) l

variable {threshold : Nat} {l : Ledger}

@[simp] theorem replay_nil : l.replay threshold [] = l := rfl

@[simp] theorem replay_cons (event : Event) (events : List Event) :
    l.replay threshold (event :: events) = (l.apply threshold event).replay threshold events := rfl

theorem replay_append (events more : List Event) :
    l.replay threshold (events ++ more) = (l.replay threshold events).replay threshold more :=
  List.foldl_append

theorem sound_apply (h : l.Sound) (event : Event) : (l.apply threshold event).Sound := by
  match event with
  | .call _ .first filter _ => exact sound_subscribe h filter
  | .call now .last filter _ => exact sound_unsubscribe h now filter
  | .sweep now => exact sound_sweep h now threshold

theorem sound_replay (h : l.Sound) (events : List Event) : (l.replay threshold events).Sound := by
  induction events generalizing l with
  | nil => exact h
  | cons event events ih => exact ih (sound_apply h event)

theorem holders_apply_call (now : Nat) (turn : Turn) (filter : String) (told : Bool) (f : String) :
    (l.apply threshold (.call now turn filter told)).holders f =
      if filter = f then turn.adjust (l.holders f) else l.holders f := by
  cases turn with
  | first => exact holders_subscribe l filter f
  | last => exact holders_unsubscribe now l filter f

/-- After a history each filter has the holders that the calls on it alone add up to. -/
theorem holders_replay (h : l.Sound) (events : List Event) (f : String) :
    (l.replay threshold events).holders f = Turn.tally (l.holders f) (callsOn f events) := by
  induction events generalizing l with
  | nil => rfl
  | cons event events ih =>
    rw [replay_cons, ih (sound_apply h event)]
    match event with
    | .call now turn filter told =>
      rw [holders_apply_call, callsOn_cons_call]
      split <;> rfl
    | .sweep now =>
      rw [callsOn_cons_sweep, apply, holders_sweep h]

/-- The ledger that a history makes from nothing. -/
abbrev ofHistory (threshold : Nat) (history : List Event) : Ledger := replay threshold history {}

theorem ofHistory_concat (threshold : Nat) (history : List Event) (event : Event) :
    ofHistory threshold (history ++ [event]) = (ofHistory threshold history).apply threshold event :=
  replay_append ..

theorem sound_ofHistory (threshold : Nat) (history : List Event) :
    (ofHistory threshold history).Sound :=
  sound_replay sound_empty history

theorem holders_ofHistory (threshold : Nat) (history : List Event) (f : String) :
    (ofHistory threshold history).holders f = tally f history :=
  holders_replay sound_empty history f

/-! ## What the listener was told -/

/-- Whether a call says truly if it turns its filter's audience. -/
def Tells (l : Ledger) : Event → Prop
  | .call _ turn filter told => told = turn.turnsAt (l.holders filter)
  | .sweep _ => True

/-- Whether every call of a history says truly if it turns its filter's audience. -/
def Truthful (threshold : Nat) : Ledger → List Event → Prop
  | _, [] => True
  | l, event :: events => l.Tells event ∧ Truthful threshold (l.apply threshold event) events

theorem truthful_append (events more : List Event) :
    l.Truthful threshold (events ++ more) ↔
      l.Truthful threshold events ∧ (l.replay threshold events).Truthful threshold more := by
  induction events generalizing l with
  | nil => simp [Truthful]
  | cons event events ih => rw [List.cons_append, Truthful, Truthful, ih, and_assoc, replay_cons]

/-- From an empty ledger on, the listener was told of a call exactly if it found no holder to come
after, or one to go. -/
theorem told_iff {before after : List Event} {now : Nat} {turn : Turn} {f : String} {told : Bool}
    (h : Truthful threshold {} (before ++ .call now turn f told :: after)) :
    told = true ↔ turn = .first ∧ tally f before = 0 ∨ turn = .last ∧ tally f before = 1 := by
  have htells := ((truthful_append _ _).1 h).2.1
  rw [Tells, holders_ofHistory] at htells
  rw [htells, Turn.turnsAt_iff]

/-- The listener was told of the calls on a filter that turned its audience, and of no others. -/
theorem turnsOf_toldIn (h : l.Sound) {events : List Event} (ht : l.Truthful threshold events)
    (f : String) :
    turnsOf f (toldIn events) = Turn.transitions (l.holders f) (callsOn f events) := by
  induction events generalizing l with
  | nil => rfl
  | cons event events ih =>
    have hrest := ih (sound_apply h event) ht.2
    match event with
    | .call now turn filter told =>
      have htold : told = turn.turnsAt (l.holders filter) := ht.1
      rw [holders_apply_call] at hrest
      rw [callsOn_cons_call, toldIn_cons_call, htold]
      by_cases hf : filter = f
      · subst hf
        rw [if_pos rfl] at hrest ⊢
        rw [Turn.transitions, ← hrest]
        split
        · rw [turnsOf_cons, if_pos rfl]
        · rfl
      · rw [if_neg hf] at hrest ⊢
        rw [← hrest]
        split
        · rw [turnsOf_cons, if_neg hf]
        · rfl
    | .sweep now =>
      rw [callsOn_cons_sweep, ← holders_sweep h now threshold]
      exact hrest

end Ledger

end Audience
