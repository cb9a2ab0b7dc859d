import Audience.Proofs.Reporting

/-!
# Telling leaf by leaf

Reporters that only watch are told at the moments of a run and at no other time
(`Tracker.heardIn_run`), in the order of the leaves and as far as the first
that aborts (`reached`). What the tracker is left as does not depend on which
listener watches (`Tracker.serve_withListener_of_watches`), so the transitions
are those that a lone `recorder` would be told of.

`Tracker.tells_leaves_run` puts this together with what holds of leaves that
make changes of their own.
-/

namespace Audience

/-! ## Reporters that only watch -/

/-- Whether a reaction aborts before it changes anything, if `sight` answers what it asks. -/
def Reaction.aborts (sight : String → Sight) : Reaction → Bool
  | .done | .subscribe _ _ | .unsubscribe _ _ => false
  | .note _ next => next.aborts sight
  | .ask topic next => (next (sight topic)).aborts sight
  | .abort _ => true

namespace Reaction

variable {sight : String → Sight} {r s : Reaction}

theorem Watches.andThen (hr : r.Watches) (hs : s.Watches) : (r.andThen s).Watches := by
  induction hr with
  | done => exact hs
  | note remark _ ih => exact .note remark ih
  | ask topic _ ih => exact .ask topic ih
  | abort reason => exact .abort reason

theorem Watches.aborts_andThen (h : r.Watches) (sight : String → Sight) (s : Reaction) :
    (r.andThen s).aborts sight = (r.aborts sight || s.aborts sight) := by
  induction h with
  | done | abort => rfl
  | note remark _ ih => exact ih
  | ask topic _ ih => exact ih (sight topic)

theorem Watches.answered_andThen (h : r.Watches) (sight : String → Sight) (s : Reaction) :
    (r.andThen s).answered sight =
      r.answered sight ++ if r.aborts sight then [] else s.answered sight := by
  induction h with
  | done | abort => rfl
  | note remark _ ih => exact congrArg (remark.note :: ·) ih
  | ask topic _ ih => exact congrArg (.queried topic (sight topic).found :: ·) (ih (sight topic))

/-- Nothing else is reported, whatever is asked. -/
theorem Discreet.heardIn_answered (h : r.Discreet) (sight : String → Sight) :
    heardIn (r.answered sight) = [] := by
  induction h with
  | done | subscribe | unsubscribe | abort => rfl
  | note hremark _ ih =>
    rw [answered, heardIn, List.filterMap_cons, hremark]
    exact ih
  | ask topic _ ih => exact ih (sight topic)

end Reaction

theorem Tracker.halt_carryOut_of_watches (change : Turn → String → Tracker → Changed)
    {r : Reaction} (h : r.Watches) (t : Tracker) :
    (carryOut change r t).halt = none ↔ r.aborts t.sight = false := by
  induction h with
  | done => exact iff_of_true rfl rfl
  | note remark _ ih => exact ih
  | ask topic _ ih => exact ih (t.sight topic)
  | abort reason => exact iff_of_false (Option.some_ne_none _) (Bool.noConfusion ·)

/-- The reporters that are told of a transition: those up to the first that aborts. -/
def reached (sight : String → Sight) (transition : Transition) : List Reporter → List Reporter
  | [] => []
  | r :: reporters =>
    r :: if (r.next transition).aborts sight then [] else reached sight transition reporters

section Watching

variable {reporters : List Reporter} (watch : ∀ r ∈ reporters, r.Watches)

include watch

theorem watches_sequence (transition : Transition) :
    (Reaction.sequence (reporters.map (·.react transition))).Watches := by
  induction reporters with
  | nil => exact .done
  | cons r reporters ih =>
    obtain ⟨hr, hrest⟩ := List.forall_mem_cons.1 watch
    exact .andThen (.note _ (hr transition)) (ih hrest)

/-- Reporters report as far as they are reached. -/
theorem heardIn_answered_sequence (sight : String → Sight) (transition : Transition) :
    heardIn ((Reaction.sequence (reporters.map (·.react transition))).answered sight) =
      heardBy ((reached sight transition reporters).map (·.name)) transition := by
  induction reporters with
  | nil => rfl
  | cons r reporters ih =>
    obtain ⟨hr, hrest⟩ := List.forall_mem_cons.1 watch
    have hreact : (r.react transition).Watches := .note _ (hr transition)
    have hreport : heardIn ((r.react transition).answered sight) = [(r.name, transition)] :=
      congrArg ((r.name, transition) :: ·) ((r.discreet transition).heardIn_answered sight)
    have hsequence : Reaction.sequence ((r :: reporters).map (·.react transition)) =
        (r.react transition).andThen (.sequence (reporters.map (·.react transition))) := rfl
    rw [hsequence, hreact.answered_andThen, heardIn_append, hreport, reached]
    show _ ++ heardIn (if (r.next transition).aborts sight then _ else _) = _
    split
    · rfl
    · rw [ih hrest]
      rfl

/-- If none aborts all are reached. -/
theorem reached_of_goes_on {sight : String → Sight} {transition : Transition}
    (h : (Reaction.sequence (reporters.map (·.react transition))).aborts sight = false) :
    reached sight transition reporters = reporters := by
  induction reporters with
  | nil => rfl
  | cons r reporters ih =>
    obtain ⟨hr, hrest⟩ := List.forall_mem_cons.1 watch
    have hreact : (r.react transition).Watches := .note _ (hr transition)
    obtain ⟨hfirst, hlater⟩ := Bool.or_eq_false_iff.1 ((hreact.aborts_andThen sight _).symm.trans h)
    have hgoes : (r.next transition).aborts sight = false := hfirst
    rw [reached, hgoes, if_neg Bool.false_ne_true, ih hrest hlater]

end Watching

namespace Tracker

variable {t : Tracker} {reporters : List Reporter}

theorem watches_of_leaves {l : Listener} (hl : l.leaves = reporters.map Reporter.react)
    (watch : ∀ r ∈ reporters, r.Watches) : l.Watches := by
  intro transition
  rw [react_of_leaves hl]
  exact watches_sequence watch transition

/-- A call that is no transition says nothing. -/
theorem change_of_moment?_eq_none {turn : Turn} {filter : String}
    (h : t.moment? turn filter = none) (depth : Nat) :
    t.change (depth + 1) turn filter = { tracker := (t.count turn filter).1 } := by
  have hturned : ¬ (t.count turn filter).2 = true := by
    intro hturned
    rw [moment?, if_pos hturned] at h
    exact Option.some_ne_none _ h
  simp only [change, hturned]
  rfl

/-- What reporters that watch hear of a request: of its transition, if it is one. -/
theorem heardIn_serve (hl : t.listener.leaves = reporters.map Reporter.react)
    (watch : ∀ r ∈ reporters, r.Watches) (request : Request) :
    heardIn (t.serve request).2 = (t.momentOf? request).toList.flatMap fun m =>
      heardBy ((reached m.tracker.sight m.transition reporters).map (·.name)) m.transition := by
  cases hmoment : t.momentOf? request with
  | some m =>
    rw [serve_of_momentOf? (watches_of_leaves hl watch) hmoment, react_of_leaves hl]
    exact (heardIn_answered_sequence watch _ _).trans (List.append_nil _).symm
  | none =>
    cases hupkeep : request.isUpkeep with
    | true => exact (t.quiet_serve_of_isUpkeep hupkeep).1
    | false =>
      match request with
      | .command (.subscribe filter) =>
        exact congrArg (fun c => heardIn c.notes) (change_of_moment?_eq_none hmoment _)
      | .command (.unsubscribe filter) =>
        exact congrArg (fun c => heardIn c.notes) (change_of_moment?_eq_none hmoment _)
      | .command (.query _) | .command .size => rfl

/-- What reporters that watch hear in a run: at its moments, as far as they are reached. -/
theorem heardIn_run (hl : t.listener.leaves = reporters.map Reporter.react)
    (watch : ∀ r ∈ reporters, r.Watches) (requests : List Request) :
    heardIn (t.run requests).2 = (t.moments requests).flatMap fun m =>
      heardBy ((reached m.tracker.sight m.transition reporters).map (·.name)) m.transition := by
  induction requests generalizing t with
  | nil => rfl
  | cons request requests ih =>
    have hlater := ih (t := (t.serve request).1) (by rw [listener_serve]; exact hl)
    rw [moments, List.flatMap_append, ← heardIn_serve hl watch, ← hlater]
    exact heardIn_append ..

/-- In a run without halts all are reached. -/
theorem reached_of_completes (hl : t.listener.leaves = reporters.map Reporter.react)
    (watch : ∀ r ∈ reporters, r.Watches) {requests : List Request} (h : t.Completes requests) :
    ∀ m ∈ t.moments requests, reached m.tracker.sight m.transition reporters = reporters := by
  induction requests generalizing t with
  | nil => exact fun m hm => absurd hm List.not_mem_nil
  | cons request requests ih =>
    obtain ⟨hserve, hrest⟩ := completes_cons_iff.1 h
    refine List.forall_mem_append.2 ⟨fun m hm => ?_, ih (by rw [listener_serve]; exact hl) hrest⟩
    have hcall (turn : Turn) (filter : String) (hm : t.moment? turn filter = some m)
        (hhalt : (t.change nestingLimit turn filter).halt = none) :
        reached m.tracker.sight m.transition reporters = reporters := by
      rw [show nestingLimit = nestingLimit - 1 + 1 from rfl, change_of_moment? hm,
        react_of_leaves hl] at hhalt
      exact reached_of_goes_on watch
        ((halt_carryOut_of_watches _ (watches_sequence watch m.transition) m.tracker).1 hhalt)
    rw [Option.mem_toList] at hm
    match request with
    | .command (.subscribe filter) => exact hcall .first filter hm hserve
    | .command (.unsubscribe filter) => exact hcall .last filter hm hserve

/-! ## The same transitions for any listener that watches -/

theorem momentOf?_withListener (l : Listener) (t : Tracker) (request : Request) :
    (t.withListener l).momentOf? request =
      (t.momentOf? request).map fun m => { m with tracker := m.tracker.withListener l } := by
  have hcall (turn : Turn) (filter : String) :
      (t.withListener l).moment? turn filter = (t.moment? turn filter).map fun m =>
        { m with tracker := m.tracker.withListener l } := by
    simp only [moment?, count_withListener]
    split <;> rfl
  cases request with
  | command command =>
    cases command with
    | subscribe filter => exact hcall .first filter
    | unsubscribe filter => exact hcall .last filter
    | query | size | sweep | sleep => rfl
  | jump | stop | shutdown => rfl

/-- What a request leaves does not depend on which listener watches. -/
theorem serve_withListener_of_watches {l : Listener} (hl : l.Watches) (ht : t.listener.Watches)
    (request : Request) :
    ((t.withListener l).serve request).1 = (t.serve request).1.withListener l := by
  have hcall (turn : Turn) (filter : String) :
      ((t.withListener l).change nestingLimit turn filter).tracker =
        (t.change nestingLimit turn filter).tracker.withListener l := by
    rw [show nestingLimit = nestingLimit - 1 + 1 from rfl,
      (change_of_watches (t := t.withListener l) hl ..).1, (change_of_watches ht ..).1,
      count_withListener]
  match request with
  | .command (.subscribe filter) => exact hcall .first filter
  | .command (.unsubscribe filter) => exact hcall .last filter
  | .command (.query _) | .command .size | .command .sweep | .command (.sleep _) => rfl
  | .jump _ | .stop | .shutdown => rfl

theorem turnedIn_run_withListener {l : Listener} (hl : l.Watches) (ht : t.listener.Watches)
    (requests : List Request) :
    turnedIn ((t.withListener l).run requests).2 = turnedIn (t.run requests).2 := by
  rw [turnedIn_run_of_watches (t := t.withListener l) hl, turnedIn_run_of_watches ht]
  induction requests generalizing t with
  | nil => rfl
  | cons request requests ih =>
    have hlater := ih (t := (t.serve request).1) (by rw [listener_serve]; exact ht)
    rw [moments, moments, List.map_append, List.map_append, momentOf?_withListener,
      serve_withListener_of_watches hl ht, hlater]
    cases t.momentOf? request <;> rfl

theorem leaves_recorder (name : String) :
    (Listener.recorder name).leaves = [Reporter.recorder name].map Reporter.react := rfl

theorem watches_recorder (name : String) : (Listener.recorder name).Watches :=
  watches_of_leaves (leaves_recorder name)
    (List.forall_mem_singleton.2 (Reporter.watches_recorder name))

/-- A lone recorder hears what any listener is told of that watches. -/
theorem heardIn_run_recorder (ht : t.listener.Watches) (name : String) (requests : List Request) :
    heardIn ((t.withListener (.recorder name)).run requests).2 =
      (turnedIn (t.run requests).2).map (name, ·) := by
  have hheard := heardIn_run (t := t.withListener (.recorder name)) (leaves_recorder name)
    (List.forall_mem_singleton.2 (Reporter.watches_recorder name)) requests
  have hturned := turnedIn_run_of_watches (t := t.withListener (.recorder name))
    (watches_recorder name) requests
  rw [turnedIn_run_withListener (watches_recorder name) ht] at hturned
  rw [hheard, hturned, List.map_map]
  exact (List.map_eq_flatMap ..).symm

/-! ## What that comes to -/

/-- How a listener made of others tells its leaves, in any run.

Whatever the leaves do, it is as good as the flat list of them, in what is noted, what is left and
which requests halt; and its reaction to a transition is the leaves' reactions one after another, each
carried out on what the ones before left and none after one that halts. If the leaves report what
they are told, a run without halts tells each of each transition once. If moreover they only watch,
each transition is told of before the next one happens, to the leaves in order as far as the first
that aborts, and so in a run without halts each hears exactly what a lone recorder would. -/
theorem tells_leaves_run (l : Listener) (options : CleanupOptions) (requests : List Request) :
    let start := (create l options).1
    let flat := (create l.flat options).1
    let last := start.run requests
    (flat.run requests = (last.1.withListener l.flat, last.2) ∧
      flat.halts requests = start.halts requests) ∧
    (∀ depth transition t, carryOut (change depth) (l.react transition) t =
      l.leaves.foldl (fun c leaf => c.andThen (carryOut (change depth) (leaf transition)))
        { tracker := t }) ∧
    ∀ reporters : List Reporter, l.leaves = reporters.map Reporter.react →
      (start.Completes requests → ∀ name transition,
        (heardIn last.2).count (name, transition) =
          (reporters.map (·.name)).count name * (turnedIn last.2).count transition) ∧
      ((∀ r ∈ reporters, r.Watches) →
        turnedIn last.2 = (start.moments requests).map (·.transition) ∧
        heardIn last.2 = (start.moments requests).flatMap (fun m =>
          heardBy ((reached m.tracker.sight m.transition reporters).map (·.name))
            m.transition) ∧
        (start.Completes requests →
          heardIn last.2 = (turnedIn last.2).flatMap (heardBy (reporters.map (·.name))) ∧
          ∀ name, (reporters.map (·.name)).count name = 1 →
            (heardIn last.2).filter (·.1 == name) =
              heardIn ((create (.recorder name) options).1.run requests).2)) := by
  intro start flat last
  have hflat := run_withListener (t := start) l.react_flat requests
  refine ⟨hflat, fun depth => carryOut_react (change depth) l, fun reporters hl => ?_⟩
  refine ⟨fun complete name transition => count_heardIn_run hl complete name transition,
    fun watch => ?_⟩
  have hwatches : l.Watches := watches_of_leaves hl watch
  have hturned := turnedIn_run_of_watches (t := start) hwatches requests
  have hheard := heardIn_run (t := start) hl watch requests
  refine ⟨hturned, hheard, fun complete => ?_⟩
  have hall : heardIn last.2 = (turnedIn last.2).flatMap (heardBy (reporters.map (·.name))) := by
    have hreached := reached_of_completes (t := start) hl watch complete
    rw [hheard, hturned, List.flatMap_map]
    exact List.flatMap_congr fun m hm => by rw [hreached m hm]
  refine ⟨hall, fun name hname => ?_⟩
  refine Eq.trans ?_ (heardIn_run_recorder (t := start) hwatches name requests).symm
  rw [hall, List.filter_flatMap]
  simp only [filter_heardBy, hname, List.replicate_one]
  exact (List.map_eq_flatMap ..).symm

/-- Three leaves at different depths, one of which asks, among shared listeners and empty ones. -/
theorem tells_leaves_run_nested :
    let asks : Reporter := ⟨"a", fun transition => .ask transition.filter fun sight =>
      .note (.reported ⟨"a", transition, some sight⟩) .done, fun _ => .ask _ fun _ => .note rfl .done⟩
    let l : Listener := .shared (.all [.all [], .leaf asks.react,
      .all [.all [.shared (.recorder "b")], .all []], .recorder "c"])
    let requests : List Request := [.command (.subscribe "x"), .command (.subscribe "x"),
      .command (.unsubscribe "x"), .command .sweep, .command (.unsubscribe "x")]
    let start := (create l ⟨0, 0⟩).1
    l.leaves = [asks, .recorder "b", .recorder "c"].map Reporter.react ∧
      (∀ r ∈ [asks, .recorder "b", .recorder "c"], r.Watches) ∧ start.Completes requests ∧
      heardIn (start.run requests).2 =
        [("a", ⟨.first, "x"⟩), ("b", ⟨.first, "x"⟩), ("c", ⟨.first, "x"⟩),
          ("a", ⟨.last, "x"⟩), ("b", ⟨.last, "x"⟩), ("c", ⟨.last, "x"⟩)] ∧
      (heardIn (start.run requests).2).filter (·.1 == "b") =
        heardIn ((create (.recorder "b") ⟨0, 0⟩).1.run requests).2 := by
  intro asks l requests start
  have watch : ∀ r ∈ [asks, .recorder "b", .recorder "c"], r.Watches := by
    refine List.forall_mem_cons.2 ⟨fun _ => .ask _ fun _ => .note _ .done, ?_⟩
    exact List.forall_mem_cons.2 ⟨Reporter.watches_recorder "b",
      List.forall_mem_singleton.2 (Reporter.watches_recorder "c")⟩
  have complete : start.Completes requests := by
    show ∀ h ∈ start.halts requests, h = none
    decide
  obtain ⟨-, -, htells⟩ := tells_leaves_run l ⟨0, 0⟩ requests
  obtain ⟨-, hwatching⟩ := htells [asks, .recorder "b", .recorder "c"] rfl
  obtain ⟨-, -, hgoes⟩ := hwatching watch
  obtain ⟨hall, hone⟩ := hgoes complete
  have hturned : turnedIn (start.run requests).2 = [⟨.first, "x"⟩, ⟨.last, "x"⟩] := by decide
  rw [hturned] at hall
  exact ⟨rfl, watch, complete, hall, hone "b" rfl⟩

/-- A leaf that comes after one that aborts is not told, where a lone recorder would be; and one that
comes after a leaf that subscribes is told of what that brings about before it is told of what brought
it about. -/
theorem told_less_and_later :
    let panics : Reporter := ⟨"p", fun _ => .abort "first a", fun _ => .abort "first a"⟩
    let relays : Reporter := ⟨"r", fun transition =>
      if transition.filter = "a" then .subscribe "x/a" .done else .done, fun transition => by
        split
        · exact .subscribe "x/a" .done
        · exact .done⟩
    let requests : List Request := [.command (.subscribe "a")]
    let minute := 60000000000
    let heard (l : Listener) := heardIn ((create l ⟨minute, minute⟩).1.run requests).2
    let turned (l : Listener) := turnedIn ((create l ⟨minute, minute⟩).1.run requests).2
    let first : Listener := .all [.leaf panics.react, .recorder "h"]
    let second : Listener := .all [.leaf relays.react, .recorder "h"]
    heard (.recorder "h") = [("h", ⟨.first, "a"⟩)] ∧
      turned first = [⟨.first, "a"⟩] ∧ heard first = [("p", ⟨.first, "a"⟩)] ∧
      (heard first).filter (·.1 == "h") ≠ heard (.recorder "h") ∧
      turned second = [⟨.first, "a"⟩, ⟨.first, "x/a"⟩] ∧
      heard second = [("r", ⟨.first, "a"⟩), ("r", ⟨.first, "x/a"⟩), ("h", ⟨.first, "x/a"⟩),
        ("h", ⟨.first, "a"⟩)] ∧
      heard second ≠ (turned second).flatMap (heardBy ["r", "h"]) := by
  intro panics relays requests minute heard turned first second
  exact ⟨by decide, by decide, by decide, by decide, by decide, by decide, by decide⟩

end Tracker

end Audience
