import Audience.Proofs.Run

/-!
# Listeners that only watch

A listener watches when its reactions note, ask and abort, but subscribe and
unsubscribe nothing. A tracker whose listener watches gets the calls of its
requests and no others (`callsOn_history_of_watches`).
-/

namespace Audience

/-- A reaction without further changes. -/
inductive Reaction.Watches : Reaction → Prop where
  | done : Watches .done
  | note (remark : Remark) {next : Reaction} : Watches next → Watches (.note remark next)
  | ask (topic : String) {next : Sight → Reaction} :
    (∀ sight, Watches (next sight)) → Watches (.ask topic next)
  | abort (reason : String) : Watches (.abort reason)

/-- Whether a listener changes nothing, whatever it is told. -/
def Listener.Watches (l : Listener) : Prop := ∀ transition, (l.react transition).Watches

theorem Listener.watches_silent : silent.Watches := fun _ => .done

/-- The call that a request makes on a filter, if it makes one. -/
def Tracker.Request.turnOn? (f : String) : Request → Option Turn
  | .command (.subscribe filter) => if filter = f then some .first else none
  | .command (.unsubscribe filter) => if filter = f then some .last else none
  | _ => none

theorem callsOn_sweepsIn (f : String) (notes : List Note) : callsOn f (sweepsIn notes) = [] := by
  refine List.filterMap_eq_nil_iff.2 fun event h => ?_
  obtain ⟨now, rfl⟩ := exists_of_mem_sweepsIn h
  rfl

namespace Tracker

/-! ## The listener stays the same -/

theorem listener_serve (t : Tracker) (request : Request) :
    (t.serve request).1.listener = t.listener := by
  match request with
  | .command (.subscribe filter) => exact listener_change _ .first filter t
  | .command (.unsubscribe filter) => exact listener_change _ .last filter t
  | .command (.query _) | .command .size | .command .sweep | .command (.sleep _) => rfl
  | .jump _ | .stop | .shutdown => rfl

theorem listener_run (t : Tracker) (requests : List Request) :
    (t.run requests).1.listener = t.listener := by
  induction requests generalizing t with
  | nil => rfl
  | cons request requests ih => exact (ih (t.serve request).1).trans (listener_serve t request)

/-! ## No call but those of the requests -/

theorem reactionCalls_of_watches {change : Turn → String → Tracker → Changed}
    {calls : Turn → String → Tracker → List Event} {reaction : Reaction} (h : reaction.Watches)
    (t : Tracker) : reactionCalls change calls reaction t = [] := by
  induction h with
  | done => rfl
  | note remark _ ih => exact ih
  | ask topic _ ih => exact ih _
  | abort reason => rfl

theorem callsOn_calls_of_watches {t : Tracker} (h : t.listener.Watches) (depth : Nat) (turn : Turn)
    (filter f : String) :
    callsOn f (t.calls (depth + 1) turn filter) = if filter = f then [turn] else [] := by
  simp only [calls, reactionCalls_of_watches (h _), ite_self, callsOn_cons_call]
  rfl

theorem callsOn_events_of_watches {t : Tracker} (h : t.listener.Watches) (request : Request)
    (f : String) : callsOn f (t.events request) = (request.turnOn? f).toList := by
  match request with
  | .command (.subscribe filter) =>
    rw [events, nestingLimit, callsOn_calls_of_watches h, Request.turnOn?]
    split <;> rfl
  | .command (.unsubscribe filter) =>
    rw [events, nestingLimit, callsOn_calls_of_watches h, Request.turnOn?]
    split <;> rfl
  | .command .sweep => rfl
  | .command (.query _) | .command .size | .command (.sleep _) => exact callsOn_sweepsIn f _
  | .jump _ | .stop | .shutdown => exact callsOn_sweepsIn f _

theorem callsOn_history_of_watches {t : Tracker} (h : t.listener.Watches) (requests : List Request)
    (f : String) : callsOn f (t.history requests) = requests.filterMap (·.turnOn? f) := by
  induction requests generalizing t with
  | nil => rfl
  | cons request requests ih =>
    have hnext : (t.serve request).1.listener.Watches := by rw [listener_serve]; exact h
    rw [history, callsOn_append, callsOn_events_of_watches h, ih hnext, List.filterMap_cons]
    cases request.turnOn? f <;> rfl

end Tracker

end Audience
