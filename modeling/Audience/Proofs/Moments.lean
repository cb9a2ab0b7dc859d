import Audience.Proofs.Counts

/-!
# What a listener sees

A listener is told of a turn at once, when the ledger has counted it and before
anything else happens: a `Moment` is a transition with the tracker as it is
then. A listener that only watches leaves the tracker as it finds it, so all of
its leaves are told at the same tracker, and all that they ask is answered from
it (`carryOut_of_watches`).

At a first holder the filter has one holder, and a query for the filter itself
as a topic finds it: whatever levels it has, well formed or not, it covers
itself (`Topic.covers_self`). At a last holder the filter is tracked without
one, and the query finds other filters only. `Tracker.seen_run` says so of every
transition of a run.
-/

namespace Audience

namespace Topic

theorem walk_self (ps : List String) : walk (ps.map Level.ofText) ps = true := by
  induction ps with
  | nil => rfl
  | cons p ps ih =>
    rw [List.map_cons, Level.ofText]
    split
    · exact ih
    · split
      · rfl
      · rw [walk, ih, beq_self_eq_true, Bool.and_true]

/-- Every text covers itself, taken as a filter and as a topic. -/
theorem covers_self (f : String) : covers f f = true := walk_self (parts f)

end Topic

/-! ## What is asked of a tracker that does not change -/

/-- What a reaction notes before it changes anything, if `sight` answers what it asks. -/
def Reaction.answered (sight : String → Sight) : Reaction → List Note
  | .done | .subscribe _ _ | .unsubscribe _ _ | .abort _ => []
  | .note remark next => remark.note :: next.answered sight
  | .ask topic next => .queried topic (sight topic).found :: (next (sight topic)).answered sight

theorem Reaction.Watches.of_andThen {r s : Reaction} (h : (r.andThen s).Watches) : r.Watches := by
  induction r with
  | done => exact .done
  | note remark next ih => cases h with | note _ h => exact .note remark (ih h)
  | ask topic next ih => cases h with | ask _ h => exact .ask topic fun sight => ih sight (h sight)
  | subscribe => cases h
  | unsubscribe => cases h
  | abort reason => exact .abort reason

/-- The first of the leaves of a listener that watches watch too. -/
theorem Listener.Watches.of_leaves {l : Listener} (h : l.Watches)
    {early late : List (Transition → Reaction)} (hleaves : l.leaves = early ++ late)
    (transition : Transition) : (Reaction.sequence (early.map (· transition))).Watches := by
  have hreact := h transition
  rw [Listener.react_eq_leaves, hleaves, List.map_append, Reaction.sequence_append] at hreact
  exact hreact.of_andThen

namespace Tracker

/-- What a listener finds that asks for a topic. -/
def sight (t : Tracker) (topic : String) : Sight := ⟨t.hasAudience topic, t.size⟩

/-- A reaction that watches leaves the tracker, which answers all that it asks. -/
theorem carryOut_of_watches (change : Turn → String → Tracker → Changed) {reaction : Reaction}
    (h : reaction.Watches) (t : Tracker) :
    (carryOut change reaction t).tracker = t ∧
      (carryOut change reaction t).notes = reaction.answered t.sight := by
  induction h with
  | done => exact ⟨rfl, rfl⟩
  | note remark _ ih => exact ⟨ih.1, congrArg (remark.note :: ·) ih.2⟩
  | ask topic _ ih =>
    obtain ⟨htracker, hnotes⟩ := ih (t.sight topic)
    exact ⟨htracker, congrArg (Note.queried topic (t.hasAudience topic) :: ·) hnotes⟩
  | abort reason => exact ⟨rfl, rfl⟩

end Tracker

/-! ## Moments -/

/-- A transition, and the tracker when the listener is told of it. -/
structure Moment where
  transition : Transition
  tracker : Tracker

/-- The number of holders that a turn leaves. -/
def Turn.left : Turn → Nat
  | .first => 1
  | .last => 0

namespace Tracker

/-- The moment of a call, if it turns the audience of its filter. -/
def moment? (turn : Turn) (filter : String) (t : Tracker) : Option Moment :=
  if (t.count turn filter).2 then some ⟨⟨turn, filter⟩, (t.count turn filter).1⟩ else none

/-- The moment of a request. -/
def momentOf? (t : Tracker) : Request → Option Moment
  | .command (.subscribe filter) => t.moment? .first filter
  | .command (.unsubscribe filter) => t.moment? .last filter
  | _ => none

/-- The moments of a run. -/
def moments : List Request → Tracker → List Moment
  | [], _ => []
  | request :: requests, t => (t.momentOf? request).toList ++ moments requests (t.serve request).1

variable {t : Tracker} {turn : Turn} {filter : String} {m : Moment}

theorem moment?_eq_some_iff :
    t.moment? turn filter = some m ↔
      (t.count turn filter).2 = true ∧ ⟨⟨turn, filter⟩, (t.count turn filter).1⟩ = m := by
  rw [moment?, Option.ite_none_right_eq_some, Option.some.injEq]

/-- At the moment of a call the listener reacts, from the tracker as it is then. -/
theorem change_of_moment? (h : t.moment? turn filter = some m) (depth : Nat) :
    t.change (depth + 1) turn filter =
      (carryOut (change depth) (t.listener.react m.transition) m.tracker).after
        [.turned m.transition] := by
  obtain ⟨hturned, rfl⟩ := moment?_eq_some_iff.1 h
  simp only [change, hturned, if_true]

theorem sound_count (h : t.ledger.Sound) (turn : Turn) (filter : String) :
    (t.count turn filter).1.ledger.Sound := by
  cases turn with
  | first => exact Ledger.sound_subscribe h filter
  | last => exact Ledger.sound_unsubscribe h t.clock filter

/-- At its moment a filter is tracked and has the holders that the turn leaves. -/
theorem count?_of_moment? (h : t.moment? turn filter = some m) :
    m.tracker.ledger.count? m.transition.filter = some m.transition.turn.left := by
  obtain ⟨hturned, rfl⟩ := moment?_eq_some_iff.1 h
  rw [turned_count] at hturned
  cases turn with
  | first =>
    have hfree : t.ledger.holders filter = 0 := beq_iff_eq.1 hturned
    show (((t.ledger.subscribe filter).1.find? filter).map (·.holders)) = some 1
    rw [Ledger.find?_subscribe, if_pos rfl, hfree]
    rfl
  | last =>
    have hheld : t.ledger.holders filter = 1 := beq_iff_eq.1 hturned
    show (t.ledger.unsubscribe t.clock filter).1.count? filter = some 0
    rw [Ledger.count?_unsubscribe, if_pos rfl,
      Ledger.count?_of_holders_ne_zero (hheld.trans_ne Nat.one_ne_zero), hheld]
    rfl

theorem exists_of_momentOf? {request : Request} (h : t.momentOf? request = some m) :
    ∃ turn filter, t.moment? turn filter = some m := by
  match request with
  | .command (.subscribe filter) => exact ⟨.first, filter, h⟩
  | .command (.unsubscribe filter) => exact ⟨.last, filter, h⟩

/-- The moments of a run are those of its requests, each served where those before it lead. -/
theorem mem_moments_iff {requests : List Request} :
    m ∈ t.moments requests ↔ ∃ before request after, requests = before ++ request :: after ∧
      (t.run before).1.momentOf? request = some m := by
  induction requests generalizing t with
  | nil =>
    refine ⟨fun h => absurd h List.not_mem_nil, fun ⟨before, _, _, hcut, _⟩ => ?_⟩
    exact absurd hcut.symm (List.append_ne_nil_of_right_ne_nil _ (List.cons_ne_nil _ _))
  | cons request requests ih =>
    rw [moments, List.mem_append, ih, Option.mem_toList]
    constructor
    · rintro (hfirst | ⟨before, later, after, rfl, hlater⟩)
      · exact ⟨[], request, requests, rfl, hfirst⟩
      · exact ⟨request :: before, later, after, rfl, hlater⟩
    · rintro ⟨before, later, after, hcut, hlater⟩
      cases before with
      | nil =>
        obtain ⟨rfl, rfl⟩ := List.cons.inj hcut
        exact .inl hlater
      | cons first before =>
        obtain ⟨rfl, rfl⟩ := List.cons.inj hcut
        exact .inr ⟨before, later, after, rfl, hlater⟩

/-! ## What requests tell -/

theorem turnedIn_answered (reaction : Reaction) (sight : String → Sight) :
    turnedIn (reaction.answered sight) = [] := by
  induction reaction with
  | done | subscribe | unsubscribe | abort => rfl
  | note remark next ih =>
    exact (turnedIn_append [remark.note] _).trans (by rw [turnedIn_remark, ih]; rfl)
  | ask topic next ih => exact ih (sight topic)

/-- A change with a listener that watches: the count and no more, the listener told if it turned. -/
theorem change_of_watches (h : t.listener.Watches) (depth : Nat) (turn : Turn) (filter : String) :
    (t.change (depth + 1) turn filter).tracker = (t.count turn filter).1 ∧
      turnedIn (t.change (depth + 1) turn filter).notes =
        if (t.count turn filter).2 then [⟨turn, filter⟩] else [] := by
  simp only [change]
  split
  · obtain ⟨htracker, hnotes⟩ :=
      carryOut_of_watches (change depth) (h ⟨turn, filter⟩) (t.count turn filter).1
    refine ⟨htracker, ?_⟩
    rw [Changed.after, hnotes, turnedIn_append, turnedIn_answered]
    rfl
  · exact ⟨rfl, rfl⟩

/-- A request at its moment: the listener that watches is told, and the tracker stays as it is. -/
theorem serve_of_momentOf? (h : t.listener.Watches) {request : Request}
    (hmoment : t.momentOf? request = some m) :
    t.serve request =
      (m.tracker,
        .turned m.transition :: (t.listener.react m.transition).answered m.tracker.sight) := by
  have hcall (turn : Turn) (filter : String) (hm : t.moment? turn filter = some m) :
      ((t.change nestingLimit turn filter).tracker, (t.change nestingLimit turn filter).notes) =
        (m.tracker,
          .turned m.transition :: (t.listener.react m.transition).answered m.tracker.sight) := by
    obtain ⟨htracker, hnotes⟩ :=
      carryOut_of_watches (change (nestingLimit - 1)) (h m.transition) m.tracker
    rw [show nestingLimit = nestingLimit - 1 + 1 from rfl, change_of_moment? hm]
    exact Prod.ext htracker (congrArg (Note.turned m.transition :: ·) hnotes)
  match request with
  | .command (.subscribe filter) => exact hcall .first filter hmoment
  | .command (.unsubscribe filter) => exact hcall .last filter hmoment

theorem turnedIn_serve_of_watches (h : t.listener.Watches) (request : Request) :
    turnedIn (t.serve request).2 = (t.momentOf? request).toList.map (·.transition) := by
  have hcall (turn : Turn) (filter : String) :
      turnedIn (t.change nestingLimit turn filter).notes =
        (t.moment? turn filter).toList.map (·.transition) := by
    rw [show nestingLimit = nestingLimit - 1 + 1 from rfl, (change_of_watches h ..).2, moment?]
    split <;> rfl
  match request with
  | .command (.subscribe filter) => exact hcall .first filter
  | .command (.unsubscribe filter) => exact hcall .last filter
  | .command (.query _) | .command .size | .command .sweep => rfl
  | .command (.sleep _) | .jump _ | .stop | .shutdown =>
    exact (accounts_serve t _).told.trans (toldIn_sweepsIn _)

/-- The listener is told at the moments of a run, and at no other time. -/
theorem turnedIn_run_of_watches (h : t.listener.Watches) (requests : List Request) :
    turnedIn (t.run requests).2 = (t.moments requests).map (·.transition) := by
  induction requests generalizing t with
  | nil => rfl
  | cons request requests ih =>
    have hnext : (t.serve request).1.listener.Watches := by rw [listener_serve]; exact h
    rw [moments, List.map_append, ← turnedIn_serve_of_watches h, ← ih hnext]
    exact turnedIn_append ..

/-! ## What that comes to -/

/-- What a listener sees that only watches, in any run. It is told at the moments of the run, each
time of the tracker as it is then: each of its leaves finds that tracker and no other, and all they
ask is answered from it. When a filter has gained its first holder it has that one and no more, it
is tracked and counted in the size, and a query for the filter itself as a topic finds holders. When
a filter has lost its last holder it has none and is still tracked, and such a query finds holders
exactly if another filter that has any covers it. -/
theorem seen_run {listener : Listener} (watches : listener.Watches) (options : CleanupOptions)
    (requests : List Request) :
    let start := (create listener options).1
    let moments := start.moments requests
    turnedIn (start.run requests).2 = moments.map (·.transition) ∧
      ∀ m ∈ moments,
        (∃ before request after, requests = before ++ request :: after ∧
          (start.run before).1.serve request =
            (m.tracker,
              .turned m.transition :: (listener.react m.transition).answered m.tracker.sight)) ∧
        (∀ early leaf late depth, listener.leaves = early ++ leaf :: late →
          (carryOut (change depth) (.sequence (early.map (· m.transition))) m.tracker).tracker =
            m.tracker) ∧
        (∀ f, m.transition = ⟨.first, f⟩ →
          m.tracker.ledger.count? f = some 1 ∧ m.tracker.hasAudience f = true ∧
            f ∈ {g | (m.tracker.ledger.find? g).isSome} ∧
            m.tracker.size = {g | (m.tracker.ledger.find? g).isSome}.ncard) ∧
        ∀ f, m.transition = ⟨.last, f⟩ →
          m.tracker.ledger.count? f = some 0 ∧ (m.tracker.ledger.find? f).isSome ∧
            (m.tracker.hasAudience f = true ↔
              ∃ g, g ≠ f ∧ 0 < (m.tracker.ledger.count? g).getD 0 ∧ Topic.covers g f = true) := by
  intro start moments
  refine ⟨turnedIn_run_of_watches watches requests, fun m hm => ?_⟩
  obtain ⟨before, request, after, hcut, hmoment⟩ := mem_moments_iff.1 hm
  have hlistener : (start.run before).1.listener = listener := listener_run start before
  have hserve := serve_of_momentOf? (by rw [hlistener]; exact watches) hmoment
  rw [hlistener] at hserve
  obtain ⟨turn, filter, hturn⟩ := exists_of_momentOf? hmoment
  have hsound : m.tracker.ledger.Sound := by
    obtain ⟨-, rfl⟩ := moment?_eq_some_iff.1 hturn
    exact sound_count (counts_run listener options before).sound turn filter
  have hcount := count?_of_moment? hturn
  have htracked : (m.tracker.ledger.find? m.transition.filter).isSome := by
    rw [← Option.isSome_map, ← Ledger.count?, hcount]
    rfl
  have hfound := Ledger.anyActive_iff hsound (Topic.covers · m.transition.filter)
  refine ⟨⟨before, request, after, hcut, hserve⟩, ?_, ?_, ?_⟩
  · intro early leaf late depth hleaves
    exact (carryOut_of_watches (change depth) (watches.of_leaves hleaves m.transition) m.tracker).1
  · intro f hf
    rw [hf] at hcount htracked hfound
    have hheld : 0 < m.tracker.ledger.holders f := by
      rw [Ledger.holders, hcount]
      exact Nat.one_pos
    exact ⟨hcount, hfound.2 ⟨f, hheld, Topic.covers_self f⟩, htracked, Ledger.size_eq_ncard hsound⟩
  · intro f hf
    rw [hf] at hcount htracked hfound
    refine ⟨hcount, htracked, hfound.trans (exists_congr fun g => (and_iff_right_of_imp ?_).symm)⟩
    rintro ⟨hheld, -⟩ rfl
    rw [Ledger.holders, hcount] at hheld
    exact Nat.lt_irrefl 0 hheld

/-- A filter with a wildcard in its middle loses its holder while another covers it. -/
theorem seen_at_covered_loss :
    let listener : Listener := .all [.silent, .leaf fun transition =>
      .ask transition.filter fun sight => .note (.reported ⟨"seen", transition, some sight⟩) .done]
    let requests : List Request := [.command (.subscribe "a/#/b"), .command (.subscribe "#"),
      .command (.unsubscribe "a/#/b")]
    let start := (create listener ⟨0, 0⟩).1
    let last := (start.run requests).1
    listener.Watches ∧ ⟨⟨.last, "a/#/b"⟩, last⟩ ∈ start.moments requests ∧
      last.ledger.count? "a/#/b" = some 0 ∧ last.hasAudience "a/#/b" = true := by
  intro listener requests start last
  have hwatches : listener.Watches := fun transition =>
    .ask transition.filter fun sight => .note (.reported ⟨"seen", transition, some sight⟩) .done
  have hmoment : ⟨⟨.last, "a/#/b"⟩, last⟩ ∈ start.moments requests :=
    mem_moments_iff.2 ⟨requests.take 2, .command (.unsubscribe "a/#/b"), [], rfl, rfl⟩
  obtain ⟨-, -, -, hlast⟩ := (seen_run hwatches ⟨0, 0⟩ requests).2 _ hmoment
  obtain ⟨hcount, -, hfound⟩ := hlast "a/#/b" rfl
  exact ⟨hwatches, hmoment, hcount, hfound.2 ⟨"#", by decide, by decide, by decide⟩⟩

end Tracker

end Audience
