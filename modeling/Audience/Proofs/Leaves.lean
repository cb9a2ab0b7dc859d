import Audience.Proofs.Answers
import Audience.Proofs.Moments

/-!
# Listeners made of others

A listener made of others is as good as the list of its leaves.

* It reacts as its leaves do one after another, so its reaction is carried out
  leaf by leaf: each leaf's on the tracker that the ones before it left, up to
  the first that comes to a halt (`Tracker.carryOut_react`). What reactions
  leave is put together by `Changed.andThen`.
* A tracker knows its listener by its reactions only. So with another listener
  that reacts the same, and the flat list of the leaves does
  (`Listener.react_flat`), any run notes the same, halts at the same requests
  and leaves the same but for the listener (`Tracker.run_withListener`).
-/

namespace Audience

/-! ## One change and then another -/

namespace Changed

/-- A change and what follows, unless the change comes to a halt. -/
def andThen (c : Changed) (rest : Tracker → Changed) : Changed :=
  match c.halt with
  | some _ => c
  | none => (rest c.tracker).after c.notes

variable {c : Changed} {rest : Tracker → Changed}

theorem andThen_of_halt {halt : Halt} (h : c.halt = some halt) : c.andThen rest = c := by
  rw [andThen, h]

theorem andThen_of_goes_on (h : c.halt = none) :
    c.andThen rest = (rest c.tracker).after c.notes := by
  rw [andThen, h]

theorem andThen_done (c : Changed) : c.andThen (fun t => { tracker := t }) = c := by
  cases h : c.halt with
  | some halt => exact andThen_of_halt h
  | none =>
    rw [andThen_of_goes_on h, after, List.append_nil]
    exact h ▸ rfl

theorem after_after (c : Changed) (notes more : List Note) :
    (c.after more).after notes = c.after (notes ++ more) := by
  simp only [after, List.append_assoc]

theorem after_andThen (c : Changed) (notes : List Note) (rest : Tracker → Changed) :
    (c.after notes).andThen rest = (c.andThen rest).after notes := by
  cases h : c.halt with
  | some halt => rw [andThen_of_halt h, andThen_of_halt (c := c.after notes) h]
  | none =>
    rw [andThen_of_goes_on h, andThen_of_goes_on (c := c.after notes) h, after_after]
    rfl

theorem andThen_assoc (c : Changed) (rest more : Tracker → Changed) :
    (c.andThen rest).andThen more = c.andThen fun t => (rest t).andThen more := by
  cases h : c.halt with
  | some halt => rw [andThen_of_halt h, andThen_of_halt h, andThen_of_halt h]
  | none => rw [andThen_of_goes_on h, andThen_of_goes_on h, after_andThen]

end Changed

namespace Tracker

variable (change : Turn → String → Tracker → Changed)

theorem carryOut_subscribe (filter : String) (next : Reaction) (t : Tracker) :
    carryOut change (.subscribe filter next) t =
      (change .first filter t).andThen (carryOut change next) := rfl

theorem carryOut_unsubscribe (filter : String) (next : Reaction) (t : Tracker) :
    carryOut change (.unsubscribe filter next) t =
      (change .last filter t).andThen (carryOut change next) := rfl

/-- A second reaction is carried out on what the first one leaves. -/
theorem carryOut_andThen (r s : Reaction) (t : Tracker) :
    carryOut change (r.andThen s) t = (carryOut change r t).andThen (carryOut change s) := by
  induction r generalizing t with
  | done => rfl
  | note remark next ih =>
    rw [Reaction.andThen, carryOut, carryOut, ih, Changed.after_andThen]
  | ask topic next ih =>
    simp only [Reaction.andThen, carryOut, ih, Changed.after_andThen]
  | subscribe filter next ih =>
    rw [Reaction.andThen, carryOut_subscribe, carryOut_subscribe, Changed.andThen_assoc]
    exact congrArg _ (funext fun u => ih u)
  | unsubscribe filter next ih =>
    rw [Reaction.andThen, carryOut_unsubscribe, carryOut_unsubscribe, Changed.andThen_assoc]
    exact congrArg _ (funext fun u => ih u)
  | abort reason => rfl

/-- Reactions in order, from a change on. -/
theorem andThen_carryOut_sequence (rs : List Reaction) (c : Changed) :
    c.andThen (carryOut change (.sequence rs)) =
      rs.foldl (fun c r => c.andThen (carryOut change r)) c := by
  induction rs generalizing c with
  | nil => exact Changed.andThen_done c
  | cons r rs ih =>
    have hfirst : carryOut change (.sequence (r :: rs)) =
        fun t => (carryOut change r t).andThen (carryOut change (.sequence rs)) :=
      funext fun t => carryOut_andThen change r (.sequence rs) t
    rw [List.foldl_cons, ← ih, hfirst, Changed.andThen_assoc]

/-- A listener's reaction is carried out leaf by leaf. -/
theorem carryOut_react (l : Listener) (transition : Transition) (t : Tracker) :
    carryOut change (l.react transition) t =
      l.leaves.foldl (fun c leaf => c.andThen (carryOut change (leaf transition)))
        { tracker := t } := by
  rw [Listener.react_eq_leaves]
  refine Eq.trans ?_ ((andThen_carryOut_sequence change _ _).trans List.foldl_map)
  rfl

end Tracker

/-! ## Another listener that reacts the same -/

namespace Listener

/-- The leaves of a listener, put together without further ado. -/
def flat (l : Listener) : Listener := .all (l.leaves.map .leaf)

theorem leaves_flat (l : Listener) : l.flat.leaves = l.leaves := by
  rw [flat, leaves]
  induction l.leaves with
  | nil => rfl
  | cons leaf more ih => exact congrArg (leaf :: ·) ih

theorem react_flat (l : Listener) (transition : Transition) :
    l.flat.react transition = l.react transition := by
  rw [react_eq_leaves, react_eq_leaves, leaves_flat]

end Listener

namespace Tracker

/-- The tracker with another listener. -/
def withListener (l : Listener) (t : Tracker) : Tracker := { t with listener := l }

end Tracker

/-- What the change leaves, with another listener. -/
def Changed.withListener (l : Listener) (c : Changed) : Changed :=
  { c with tracker := c.tracker.withListener l }

namespace Tracker

variable {l : Listener} {t : Tracker}

theorem count_withListener (turn : Turn) (filter : String) (l : Listener) (t : Tracker) :
    (t.withListener l).count turn filter =
      ((t.count turn filter).1.withListener l, (t.count turn filter).2) := by
  cases turn <;> rfl

theorem listener_count (turn : Turn) (filter : String) (t : Tracker) :
    (t.count turn filter).1.listener = t.listener := by
  cases turn <;> rfl

theorem andThen_withListener {c : Changed} {rest : Tracker → Changed}
    (h : rest (c.tracker.withListener l) = (rest c.tracker).withListener l) :
    (c.withListener l).andThen rest = (c.andThen rest).withListener l := by
  cases hhalt : c.halt with
  | some halt =>
    rw [Changed.andThen_of_halt hhalt, Changed.andThen_of_halt (c := c.withListener l) hhalt]
  | none =>
    rw [Changed.andThen_of_goes_on hhalt,
      Changed.andThen_of_goes_on (c := c.withListener l) hhalt]
    exact congrArg (Changed.after · c.notes) h

/-- A reaction does the same with another listener, where the changes do that it asks for. -/
theorem carryOut_withListener {l' : Listener} {change : Turn → String → Tracker → Changed}
    (h : ∀ turn filter t, t.listener = l' →
      change turn filter (t.withListener l) = (change turn filter t).withListener l)
    (hlistener : ∀ turn filter t, (change turn filter t).tracker.listener = t.listener)
    (reaction : Reaction) (ht : t.listener = l') :
    carryOut change reaction (t.withListener l) = (carryOut change reaction t).withListener l := by
  induction reaction generalizing t with
  | done => rfl
  | note remark next ih => rw [carryOut, carryOut, ih ht]; rfl
  | ask topic next ih =>
    exact congrArg (Changed.after · [.queried topic (t.hasAudience topic)]) (ih _ ht)
  | subscribe filter next ih =>
    rw [carryOut_subscribe, carryOut_subscribe, h .first filter t ht]
    exact andThen_withListener (ih ((hlistener .first filter t).trans ht))
  | unsubscribe filter next ih =>
    rw [carryOut_unsubscribe, carryOut_unsubscribe, h .last filter t ht]
    exact andThen_withListener (ih ((hlistener .last filter t).trans ht))
  | abort reason => rfl

/-- A change does the same with another listener that reacts the same. -/
theorem change_withListener (same : ∀ transition, l.react transition = t.listener.react transition)
    (depth : Nat) (turn : Turn) (filter : String) :
    (t.withListener l).change depth turn filter =
      (t.change depth turn filter).withListener l := by
  -- The changes that the listener makes when it is told nest one less deep.
  induction depth generalizing turn filter t with
  | zero => rfl
  | succ depth ih =>
    simp only [change, count_withListener]
    split
    · show (carryOut (change depth) (l.react ⟨turn, filter⟩) _).after _ = _
      rw [same, carryOut_withListener
        (fun turn filter u hu => ih (by rw [hu]; exact same) turn filter)
        (listener_change depth) _ (listener_count turn filter t)]
      rfl
    · rfl

/-! ## Runs -/

/-- How the requests of a run halt. -/
def halts : List Request → Tracker → List (Option Halt)
  | [], _ => []
  | request :: requests, t => t.halt? request :: halts requests (t.serve request).1

/-- Whether all requests of a run come to their end. -/
def Completes (requests : List Request) (t : Tracker) : Prop := ∀ h ∈ t.halts requests, h = none

theorem completes_cons_iff {request : Request} {requests : List Request} :
    t.Completes (request :: requests) ↔
      t.halt? request = none ∧ (t.serve request).1.Completes requests :=
  List.forall_mem_cons

theorem serve_withListener (same : ∀ transition, l.react transition = t.listener.react transition)
    (request : Request) :
    (t.withListener l).serve request =
        ((t.serve request).1.withListener l, (t.serve request).2) ∧
      (t.withListener l).halt? request = t.halt? request := by
  have hchange := change_withListener same nestingLimit
  match request with
  | .command (.subscribe filter) =>
    have hcall := hchange .first filter
    exact ⟨congrArg (fun c => (c.tracker, c.notes)) hcall, congrArg (·.halt) hcall⟩
  | .command (.unsubscribe filter) =>
    have hcall := hchange .last filter
    exact ⟨congrArg (fun c => (c.tracker, c.notes)) hcall, congrArg (·.halt) hcall⟩
  | .command (.query _) | .command .size | .command .sweep | .command (.sleep _) => exact ⟨rfl, rfl⟩
  | .jump _ | .stop | .shutdown => exact ⟨rfl, rfl⟩

/-- A run with another listener that reacts the same: it notes the same, leaves the same but for the
listener, and halts at the same requests. -/
theorem run_withListener (same : ∀ transition, l.react transition = t.listener.react transition)
    (requests : List Request) :
    (t.withListener l).run requests =
        ((t.run requests).1.withListener l, (t.run requests).2) ∧
      (t.withListener l).halts requests = t.halts requests := by
  induction requests generalizing t with
  | nil => exact ⟨rfl, rfl⟩
  | cons request requests ih =>
    obtain ⟨hserve, hhalt⟩ := serve_withListener same request
    obtain ⟨hrun, hhalts⟩ := ih (t := (t.serve request).1) (by rw [listener_serve]; exact same)
    refine ⟨?_, ?_⟩
    · simp only [run, hserve, hrun]
    · simp only [halts, hserve, hhalt, hhalts]

end Tracker

end Audience
