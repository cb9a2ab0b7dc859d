import Audience.Note

/-!
# Listeners

A listener is told of every transition and answers with a `Reaction`: remarks,
queries and further subscriptions in order, until it is done or aborts.
Listeners can be shared and put together; a listener made of others reacts as
its `leaves` do one after another (`react_eq_leaves`), and the first to abort
is the last to be told.
-/

namespace Audience

/-- What a listener may note of itself: a report to the embedding code or a line of the log. -/
inductive Remark where
  | reported (report : Report)
  | announced (transition : Transition)
deriving DecidableEq, Repr

def Remark.note : Remark → Note
  | .reported report => .reported report
  | .announced transition => .announced transition

/-- What a listener does when it is told of a transition. -/
inductive Reaction where
  | done
  | note (remark : Remark) (next : Reaction)
  | ask (topic : String) (next : Sight → Reaction)
  | subscribe (filter : String) (next : Reaction)
  | unsubscribe (filter : String) (next : Reaction)
  | abort (reason : String)

namespace Reaction

/-- One reaction and then another, unless the first aborts. -/
def andThen : Reaction → Reaction → Reaction
  | .done, r => r
  | .note remark next, r => .note remark (next.andThen r)
  | .ask topic next, r => .ask topic fun sight => (next sight).andThen r
  | .subscribe filter next, r => .subscribe filter (next.andThen r)
  | .unsubscribe filter next, r => .unsubscribe filter (next.andThen r)
  | .abort reason, _ => .abort reason

/-- Reactions one after another. -/
def sequence (rs : List Reaction) : Reaction := rs.foldr andThen .done

theorem andThen_done (r : Reaction) : r.andThen .done = r := by
  induction r with
  | done => rfl
  | note remark next ih => simp [andThen, ih]
  | ask topic next ih => simp [andThen, ih]
  | subscribe filter next ih => simp [andThen, ih]
  | unsubscribe filter next ih => simp [andThen, ih]
  | abort reason => rfl

theorem andThen_assoc (r s t : Reaction) :
    (r.andThen s).andThen t = r.andThen (s.andThen t) := by
  induction r with
  | done => rfl
  | note remark next ih => simp [andThen, ih]
  | ask topic next ih => simp [andThen, ih]
  | subscribe filter next ih => simp [andThen, ih]
  | unsubscribe filter next ih => simp [andThen, ih]
  | abort reason => rfl

theorem sequence_append (rs ss : List Reaction) :
    sequence (rs ++ ss) = (sequence rs).andThen (sequence ss) := by
  induction rs with
  | nil => rfl
  | cons r rs ih =>
    have : sequence (r :: rs) = r.andThen (sequence rs) := rfl
    rw [this, andThen_assoc, ← ih]
    rfl

end Reaction

/-- Something that is told of transitions. -/
inductive Listener where
  | leaf (react : Transition → Reaction)
  | shared (inner : Listener)
  | all (members : List Listener)

namespace Listener

/-- A listener to which transitions mean nothing. -/
def silent : Listener := .leaf fun _ => .done

mutual

/-- What a listener does on a transition. -/
def react : Listener → Transition → Reaction
  | .leaf f, t => f t
  | .shared inner, t => inner.react t
  | .all members, t => reactAll members t

/-- What listeners do on a transition, one after another. -/
def reactAll : List Listener → Transition → Reaction
  | [], _ => .done
  | l :: ls, t => (l.react t).andThen (reactAll ls t)

end

mutual

/-- The reactions of the listeners that a listener is made of. -/
def leaves : Listener → List (Transition → Reaction)
  | .leaf f => [f]
  | .shared inner => inner.leaves
  | .all members => allLeaves members

def allLeaves : List Listener → List (Transition → Reaction)
  | [] => []
  | l :: ls => l.leaves ++ allLeaves ls

end

mutual

theorem react_eq_leaves (l : Listener) (t : Transition) :
    l.react t = .sequence (l.leaves.map (· t)) := by
  match l with
  | .leaf f => simp [react, leaves, Reaction.sequence, Reaction.andThen_done]
  | .shared inner => rw [react, leaves, react_eq_leaves inner]
  | .all members => rw [react, leaves, reactAll_eq_leaves members]

theorem reactAll_eq_leaves (ls : List Listener) (t : Transition) :
    reactAll ls t = .sequence ((allLeaves ls).map (· t)) := by
  match ls with
  | [] => rfl
  | l :: ls =>
    rw [reactAll, allLeaves, List.map_append, Reaction.sequence_append, react_eq_leaves l,
      reactAll_eq_leaves ls]

end

end Listener

end Audience
