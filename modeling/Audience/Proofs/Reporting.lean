import Audience.Proofs.Leaves

/-!
# Who hears of what

A `Reporter` is a leaf that reports, under its name, what it is told, and then
does whatever else it does. `heardIn` reads those reports off the notes of a
run: who was told of which transition, in order.

A change that does not come to a halt tells each reporter once of each
transition, the ones that reporters bring about themselves included. Whatever is
carried out keeps the count: a reporter that has been told is one report ahead
(`Changed.Evens.after_reported`), and when all have been told of a transition
its own note evens that out (`Changed.Evens.after_turned`). Upkeep reports
nothing (`Tracker.quiet_serve_of_isUpkeep`), so a run without halts keeps the
count too (`Tracker.count_heardIn_run`).
-/

namespace Audience

/-! ## Reports -/

/-- Who reports being told of a transition. -/
def Note.heard? : Note → Option (String × Transition)
  | .reported ⟨name, transition, none⟩ => some (name, transition)
  | _ => none

/-- What notes report being told of, by whom, in order. -/
def heardIn (notes : List Note) : List (String × Transition) := notes.filterMap (·.heard?)

theorem heardIn_append (notes more : List Note) :
    heardIn (notes ++ more) = heardIn notes ++ heardIn more :=
  List.filterMap_append

/-- A reaction that does not report being told of anything. -/
inductive Reaction.Discreet : Reaction → Prop where
  | done : Discreet .done
  | note {remark : Remark} {next : Reaction} :
    remark.note.heard? = none → Discreet next → Discreet (.note remark next)
  | ask (topic : String) {next : Sight → Reaction} :
    (∀ sight, Discreet (next sight)) → Discreet (.ask topic next)
  | subscribe (filter : String) {next : Reaction} :
    Discreet next → Discreet (.subscribe filter next)
  | unsubscribe (filter : String) {next : Reaction} :
    Discreet next → Discreet (.unsubscribe filter next)
  | abort (reason : String) : Discreet (.abort reason)

/-- A leaf that reports what it is told, once, before it does anything else. -/
structure Reporter where
  name : String
  next : Transition → Reaction
  discreet : ∀ transition, (next transition).Discreet

namespace Reporter

def react (r : Reporter) (transition : Transition) : Reaction :=
  .note (.reported ⟨r.name, transition, none⟩) (r.next transition)

/-- Whether a reporter changes nothing, whatever it is told. -/
def Watches (r : Reporter) : Prop := ∀ transition, (r.next transition).Watches

/-- A reporter that does nothing but report. -/
def recorder (name : String) : Reporter := ⟨name, fun _ => .done, fun _ => .done⟩

theorem watches_recorder (name : String) : (recorder name).Watches := fun _ => .done

end Reporter

/-- A listener that does nothing but report. -/
def Listener.recorder (name : String) : Listener := .leaf (Reporter.recorder name).react

/-- What the reporters of these names hear of a transition that all are told of. -/
def heardBy (names : List String) (transition : Transition) : List (String × Transition) :=
  names.map (·, transition)

theorem filter_heardBy (names : List String) (transition : Transition) (name : String) :
    (heardBy names transition).filter (·.1 == name) =
      List.replicate (names.count name) (name, transition) := by
  rw [heardBy, List.filter_map]
  exact (congrArg (List.map (·, transition)) (List.filter_beq name)).trans List.map_replicate

theorem count_heardBy (names : List String) (transition : Transition) (name : String)
    (other : Transition) :
    (heardBy names transition).count (name, other) =
      names.count name * [transition].count other := by
  induction names with
  | nil => simp [heardBy]
  | cons first names ih =>
    have hcons : heardBy (first :: names) transition =
        (first, transition) :: heardBy names transition := rfl
    rw [hcons, List.count_cons, ih, List.count_cons]
    by_cases hname : first = name <;> by_cases htransition : transition = other <;>
      simp [hname, htransition]

/-! ## Upkeep reports nothing -/

section Upkeep

variable (p : Note → Prop) (sweeps : ∀ sweep, p (.swept sweep))

section Ticks

include sweeps

variable {interval threshold now wake deadline : Nat} {l : Ledger}

theorem Timer.notes_fireDue :
    ∀ note ∈ (fireDue interval threshold now deadline l).notes, p note := by
  fun_induction fireDue interval threshold now deadline l with
  | case1 deadline l due left note hswept rest ih =>
    obtain ⟨-, rfl⟩ := Prod.mk.inj hswept
    exact List.forall_mem_cons.2 ⟨sweeps _, ih⟩
  | case2 => exact fun _ h => absurd h List.not_mem_nil

theorem Timer.notes_fireUntil :
    ∀ note ∈ (fireUntil interval threshold wake deadline l).notes, p note := by
  fun_induction fireUntil interval threshold wake deadline l with
  | case1 deadline l early now left note hswept rest ih =>
    obtain ⟨-, rfl⟩ := Prod.mk.inj hswept
    exact List.forall_mem_cons.2 ⟨sweeps _, ih⟩
  | case2 => exact fun _ h => absurd h List.not_mem_nil

theorem Keeper.notes_tickUntil (k : Keeper) : ∀ note ∈ (k.tickUntil wake).2, p note := by
  unfold tickUntil
  split
  · exact Timer.notes_fireUntil p sweeps
  · exact fun _ h => absurd h List.not_mem_nil

end Ticks

variable (started : ∀ period threshold, p (.cleanupStarted period threshold))
  (stopped : p .cleanupStopped)

include sweeps stopped

theorem Keeper.notes_attend (k : Keeper) (deadline : Nat) :
    ∀ note ∈ (k.attend deadline).2, p note := by
  rw [attend_eq]
  split
  · exact Timer.notes_fireDue p sweeps
  · exact List.forall_mem_singleton.2 stopped

include started

theorem Keeper.notes_run (k : Keeper) : ∀ note ∈ k.run.2, p note := by
  unfold run
  split
  · exact fun _ h => absurd h List.not_mem_nil
  · exact List.forall_mem_cons.2 ⟨started _ _, notes_attend p sweeps stopped k _⟩
  · exact notes_attend p sweeps stopped k _

theorem Keeper.notes_sleep (k : Keeper) (span : Nat) : ∀ note ∈ (k.sleep span).2, p note := by
  unfold sleep
  split
  · exact fun _ h => absurd h List.not_mem_nil
  · exact List.forall_mem_append.2
      ⟨notes_run p sweeps started stopped k, notes_tickUntil p sweeps k.run.1⟩

/-- What is true of the notes of sweeps and of the timer's start and end is true of all that requests
for upkeep note. -/
theorem Tracker.notes_serve_of_isUpkeep (t : Tracker) {request : Request}
    (h : request.isUpkeep = true) : ∀ note ∈ (t.serve request).2, p note := by
  match request with
  | .command .sweep => exact List.forall_mem_singleton.2 (sweeps _)
  | .command (.sleep span) => exact Keeper.notes_sleep p sweeps started stopped t.keeper span
  | .jump _ | .shutdown => exact Keeper.notes_run p sweeps started stopped _
  | .stop => exact fun _ h => absurd h List.not_mem_nil

end Upkeep

/-- Requests for upkeep report nothing, and nothing turns. -/
theorem Tracker.quiet_serve_of_isUpkeep (t : Tracker) {request : Request}
    (h : request.isUpkeep = true) :
    heardIn (t.serve request).2 = [] ∧ turnedIn (t.serve request).2 = [] :=
  ⟨List.filterMap_eq_nil_iff.2 (notes_serve_of_isUpkeep (·.heard? = none) (fun _ => rfl)
      (fun _ _ => rfl) rfl t h),
    List.filterMap_eq_nil_iff.2 (notes_serve_of_isUpkeep (·.transition? = none) (fun _ => rfl)
      (fun _ _ => rfl) rfl t h)⟩

/-! ## Every reporter hears of every transition -/

/-- Whether a change, if it comes to no halt, told each reporter of these names once of each of its
transitions, and besides reported what was `owed`. -/
def Changed.Evens (names : List String) (owed : List (String × Transition)) (c : Changed) : Prop :=
  c.halt = none → ∀ name transition, (heardIn c.notes).count (name, transition) =
    owed.count (name, transition) + names.count name * (turnedIn c.notes).count transition

namespace Changed.Evens

variable {names : List String} {owed more : List (String × Transition)} {c : Changed}

theorem of_silent (t : Tracker) : Evens names [] { tracker := t } := fun _ _ _ => rfl

theorem of_halt (h : c.halt ≠ none) : c.Evens names owed := fun hnone => absurd hnone h

/-- Notes that report and tell of nothing may come first. -/
theorem after_quiet (h : c.Evens names owed) {notes : List Note} (hheard : heardIn notes = [])
    (hturned : turnedIn notes = []) : (c.after notes).Evens names owed := by
  intro hnone name transition
  rw [Changed.after, heardIn_append, hheard, turnedIn_append, hturned]
  exact h hnone name transition

/-- A report is owed. -/
theorem after_reported (h : c.Evens names owed) (name : String) (transition : Transition) :
    (c.after [.reported ⟨name, transition, none⟩]).Evens names ((name, transition) :: owed) := by
  intro hnone other transition'
  have hheard : heardIn (c.after [.reported ⟨name, transition, none⟩]).notes =
      (name, transition) :: heardIn c.notes := rfl
  have hturned : turnedIn (c.after [.reported ⟨name, transition, none⟩]).notes =
      turnedIn c.notes := rfl
  rw [hheard, hturned, List.count_cons, List.count_cons, h hnone]
  omega

/-- What all report of a transition is no longer owed when it is told of. -/
theorem after_turned (transition : Transition) (h : c.Evens names (heardBy names transition)) :
    (c.after [.turned transition]).Evens names [] := by
  intro hnone name other
  have hheard : heardIn (c.after [.turned transition]).notes = heardIn c.notes := rfl
  have hturned : turnedIn (c.after [.turned transition]).notes =
      [transition] ++ turnedIn c.notes := rfl
  rw [hheard, hturned, h hnone, count_heardBy, List.count_append, Nat.mul_add, List.count_nil,
    Nat.zero_add]

theorem andThen {rest : Tracker → Changed} (h : c.Evens names owed)
    (hrest : (rest c.tracker).Evens names more) :
    (c.andThen rest).Evens names (owed ++ more) := by
  cases hhalt : c.halt with
  | some halt =>
    rw [Changed.andThen_of_halt hhalt]
    exact of_halt (by rw [hhalt]; exact Option.some_ne_none halt)
  | none =>
    rw [Changed.andThen_of_goes_on hhalt]
    intro hnone name transition
    rw [Changed.after, heardIn_append, turnedIn_append, List.count_append, List.count_append,
      List.count_append, h hhalt, hrest hnone, Nat.mul_add]
    omega

end Changed.Evens

namespace Tracker

variable {names : List String} {t : Tracker}

section CarryOut

variable {l : Listener} {change : Turn → String → Tracker → Changed}
  (evens : ∀ turn filter t, t.listener = l → (change turn filter t).Evens names [])
  (kept : ∀ turn filter t, (change turn filter t).tracker.listener = t.listener)

include evens kept

theorem evens_carryOut {reaction : Reaction} (h : reaction.Discreet) (ht : t.listener = l) :
    (carryOut change reaction t).Evens names [] := by
  induction h generalizing t with
  | done => exact .of_silent t
  | @note remark _ hremark _ ih =>
    refine (ih ht).after_quiet ?_ (turnedIn_remark remark)
    rw [heardIn, List.filterMap_cons, hremark]
    rfl
  | ask topic _ ih => exact (ih _ ht).after_quiet rfl rfl
  | subscribe filter _ ih =>
    exact (evens .first filter t ht).andThen (ih ((kept .first filter t).trans ht))
  | unsubscribe filter _ ih =>
    exact (evens .last filter t ht).andThen (ih ((kept .last filter t).trans ht))
  | abort reason => exact .of_halt (Option.some_ne_none _)

theorem evens_carryOut_sequence (reporters : List Reporter) (transition : Transition)
    (ht : t.listener = l) :
    (carryOut change (.sequence (reporters.map (·.react transition))) t).Evens names
      (heardBy (reporters.map (·.name)) transition) := by
  induction reporters generalizing t with
  | nil => exact .of_silent t
  | cons r reporters ih =>
    have hfirst : (carryOut change (r.react transition) t).Evens names [(r.name, transition)] :=
      (evens_carryOut evens kept (r.discreet transition) ht).after_reported r.name transition
    have hlistener : (carryOut change (r.react transition) t).tracker.listener = l :=
      carryOut_preserves (·.listener = l) (fun turn filter t h => (kept turn filter t).trans h)
        (r.react transition) ht
    have hsequence : Reaction.sequence ((r :: reporters).map (·.react transition)) =
        (r.react transition).andThen (.sequence (reporters.map (·.react transition))) := rfl
    rw [hsequence, carryOut_andThen]
    exact hfirst.andThen (ih hlistener)

end CarryOut

variable {reporters : List Reporter}

theorem react_of_leaves {l : Listener} (hl : l.leaves = reporters.map Reporter.react)
    (transition : Transition) :
    l.react transition = .sequence (reporters.map (·.react transition)) := by
  rw [Listener.react_eq_leaves, hl, List.map_map]
  rfl

theorem evens_change (hl : t.listener.leaves = reporters.map Reporter.react) (depth : Nat)
    (turn : Turn) (filter : String) :
    (t.change depth turn filter).Evens (reporters.map (·.name)) [] := by
  -- The changes that the listener makes when it is told nest one less deep.
  induction depth generalizing turn filter t with
  | zero => exact .of_halt (Option.some_ne_none _)
  | succ depth ih =>
    simp only [change]
    split
    · rw [react_of_leaves hl]
      refine .after_turned _ (evens_carryOut_sequence (l := t.listener) ?_ (listener_change depth)
        reporters _ (listener_count turn filter t))
      exact fun turn filter u hu => ih (by rw [hu]; exact hl) turn filter
    · exact .of_silent _

theorem count_heardIn_serve (hl : t.listener.leaves = reporters.map Reporter.react)
    {request : Request} (h : t.halt? request = none) (name : String) (transition : Transition) :
    (heardIn (t.serve request).2).count (name, transition) =
      (reporters.map (·.name)).count name * (turnedIn (t.serve request).2).count transition := by
  cases hupkeep : request.isUpkeep with
  | true =>
    obtain ⟨hheard, hturned⟩ := t.quiet_serve_of_isUpkeep hupkeep
    rw [hheard, hturned]
    rfl
  | false =>
    have hchange (turn : Turn) (filter : String) := evens_change hl nestingLimit turn filter
    match request with
    | .command (.subscribe filter) =>
      exact (hchange .first filter h name transition).trans (Nat.zero_add _)
    | .command (.unsubscribe filter) =>
      exact (hchange .last filter h name transition).trans (Nat.zero_add _)
    | .command (.query _) | .command .size => rfl

/-- In a run without halts each reporter is told of each transition once. -/
theorem count_heardIn_run (hl : t.listener.leaves = reporters.map Reporter.react)
    {requests : List Request} (h : t.Completes requests) (name : String)
    (transition : Transition) :
    (heardIn (t.run requests).2).count (name, transition) =
      (reporters.map (·.name)).count name * (turnedIn (t.run requests).2).count transition := by
  induction requests generalizing t with
  | nil => rfl
  | cons request requests ih =>
    obtain ⟨hserve, hrest⟩ := completes_cons_iff.1 h
    have hfirst := count_heardIn_serve hl hserve name transition
    have hlater := ih (by rw [listener_serve]; exact hl) hrest
    simp only [run, heardIn_append, turnedIn_append, List.count_append, Nat.mul_add, hfirst, hlater]

end Tracker

end Audience
