import Audience.Proofs.Watching

/-!
# What upkeep cannot be told by

Sweeps and the passing of time decide which idle filters are still tracked, and
that shows in the size of a tracker only. Two trackers are `Alike` that have
the same listener and the same holders of every filter, whatever else they
track and whatever their clocks and timers do. Served the same requests, up to
those for upkeep, they give the same `answers` (`alike_run`): halts,
findings, transitions, what the listener reports of them, and how many filters
are active. The listener may look at the size, as long as it reports it and
does nothing else with it (`Listener.IgnoresSize`).
-/

namespace Audience

/-! ## What is left of notes without upkeep -/

/-- A report without the size that the listener saw. -/
def Report.sizeless (r : Report) : Report :=
  { r with sight := r.sight.map fun sight => { sight with size := 0 } }

/-- What a note says apart from upkeep and sizes. -/
def Note.answer? : Note → Option Note
  | .swept _ | .cleanupStarted _ _ | .cleanupStopped | .intervalRaised _ _ => none
  | .reported report => some (.reported report.sizeless)
  | note => some note

/-- What notes say apart from upkeep and sizes. -/
def answersIn (notes : List Note) : List Note := notes.filterMap (·.answer?)

theorem answersIn_append (notes more : List Note) :
    answersIn (notes ++ more) = answersIn notes ++ answersIn more :=
  List.filterMap_append

/-! ## Reactions -/

/-- Reactions that differ in the sizes that they report and in nothing else, even where they are
shown different sizes. -/
inductive Reaction.Alike : Reaction → Reaction → Prop where
  | done : Alike .done .done
  | note {remark other : Remark} {next more : Reaction} :
    remark.note.answer? = other.note.answer? → Alike next more →
      Alike (.note remark next) (.note other more)
  | ask (topic : String) {next more : Sight → Reaction} :
    (∀ found m n, Alike (next ⟨found, m⟩) (more ⟨found, n⟩)) →
      Alike (.ask topic next) (.ask topic more)
  | subscribe (filter : String) {next more : Reaction} :
    Alike next more → Alike (.subscribe filter next) (.subscribe filter more)
  | unsubscribe (filter : String) {next more : Reaction} :
    Alike next more → Alike (.unsubscribe filter next) (.unsubscribe filter more)
  | abort (reason : String) : Alike (.abort reason) (.abort reason)

/-- Whether a listener does nothing with the sizes that it sees but report them. -/
def Listener.IgnoresSize (l : Listener) : Prop :=
  ∀ transition, (l.react transition).Alike (l.react transition)

namespace Tracker

/-- Trackers that differ in upkeep only: the same listener, which does not mind, and the same holders
of every filter. -/
structure Alike (t u : Tracker) : Prop where
  listener : t.listener = u.listener
  ignoresSize : t.listener.IgnoresSize
  sound : t.ledger.Sound
  sound' : u.ledger.Sound
  holders : ∀ f, t.ledger.holders f = u.ledger.holders f

namespace Alike

variable {t u v : Tracker}

theorem refl (ignoresSize : t.listener.IgnoresSize) (sound : t.ledger.Sound) : t.Alike t :=
  ⟨rfl, ignoresSize, sound, sound, fun _ => rfl⟩

theorem symm (h : t.Alike u) : u.Alike t :=
  ⟨h.listener.symm, h.listener ▸ h.ignoresSize, h.sound', h.sound, fun f => (h.holders f).symm⟩

theorem trans (h : t.Alike u) (h' : u.Alike v) : t.Alike v :=
  ⟨h.listener.trans h'.listener, h.ignoresSize, h.sound, h'.sound',
    fun f => (h.holders f).trans (h'.holders f)⟩

theorem active (h : t.Alike u) : t.active = u.active := by
  rw [Tracker.active, Tracker.active, Ledger.active_eq_ncard h.sound,
    Ledger.active_eq_ncard h.sound']
  simp only [h.holders]

theorem hasAudience (h : t.Alike u) (topic : String) : t.hasAudience topic = u.hasAudience topic := by
  rw [Bool.eq_iff_iff, Tracker.hasAudience, Tracker.hasAudience, Ledger.anyActive_iff h.sound,
    Ledger.anyActive_iff h.sound']
  simp only [h.holders]

/-! ## Changes -/

theorem turned (h : t.Alike u) (turn : Turn) (filter : String) :
    (t.count turn filter).2 = (u.count turn filter).2 := by
  rw [turned_count, turned_count, h.holders]

theorem count (h : t.Alike u) (turn : Turn) (filter : String) :
    (t.count turn filter).1.Alike (u.count turn filter).1 := by
  cases turn with
  | first =>
    refine ⟨h.listener, h.ignoresSize, Ledger.sound_subscribe h.sound filter,
      Ledger.sound_subscribe h.sound' filter, fun f => ?_⟩
    have hcount := Ledger.holders_subscribe t.ledger filter f
    rw [h.holders] at hcount
    exact hcount.trans (Ledger.holders_subscribe u.ledger filter f).symm
  | last =>
    refine ⟨h.listener, h.ignoresSize, Ledger.sound_unsubscribe h.sound _ filter,
      Ledger.sound_unsubscribe h.sound' _ filter, fun f => ?_⟩
    have hcount := Ledger.holders_unsubscribe t.clock t.ledger filter f
    rw [h.holders] at hcount
    exact hcount.trans (Ledger.holders_unsubscribe u.clock u.ledger filter f).symm

end Alike

end Tracker

/-- Changes that leave trackers that are alike, and say and halt the same. -/
structure Changed.Alike (c d : Changed) : Prop where
  tracker : c.tracker.Alike d.tracker
  halt : c.halt = d.halt
  notes : answersIn c.notes = answersIn d.notes

theorem Changed.Alike.after {c d : Changed} (h : c.Alike d) {notes more : List Note}
    (hnotes : answersIn notes = answersIn more) : (c.after notes).Alike (d.after more) :=
  ⟨h.tracker, h.halt, by
    rw [Changed.after, Changed.after, answersIn_append, answersIn_append, hnotes, h.notes]⟩

namespace Tracker

/-- Changes that are alike, and then what the reactions go on with unless the changes have come to a
halt. -/
theorem alike_change_then {changed changed' rest rest' : Changed} (hchange : changed.Alike changed')
    (hrest : changed.tracker.Alike changed'.tracker → rest.Alike rest') :
    Changed.Alike
      (match changed.halt with
        | some _ => changed
        | none => rest.after changed.notes)
      (match changed'.halt with
        | some _ => changed'
        | none => rest'.after changed'.notes) := by
  rw [← hchange.halt]
  cases changed.halt with
  | some _ => exact hchange
  | none => exact (hrest hchange.tracker).after hchange.notes

theorem alike_carryOut {change : Turn → String → Tracker → Changed}
    (h : ∀ turn filter t u, t.Alike u → (change turn filter t).Alike (change turn filter u))
    {reaction other : Reaction} (hreaction : reaction.Alike other) {t u : Tracker}
    (htracker : t.Alike u) : (carryOut change reaction t).Alike (carryOut change other u) := by
  induction hreaction generalizing t u with
  | done => exact ⟨htracker, rfl, rfl⟩
  | note hremark _ ih =>
    refine (ih htracker).after ?_
    simp only [answersIn, List.filterMap_cons, hremark]
  | ask topic _ ih =>
    simp only [carryOut, query, htracker.hasAudience topic]
    exact (ih _ t.size u.size htracker).after rfl
  | subscribe filter _ ih => exact alike_change_then (h .first filter t u htracker) fun h => ih h
  | unsubscribe filter _ ih => exact alike_change_then (h .last filter t u htracker) fun h => ih h
  | abort reason => exact ⟨htracker, rfl, rfl⟩

theorem alike_change {t u : Tracker} (h : t.Alike u) (depth : Nat) (turn : Turn) (filter : String) :
    (t.change depth turn filter).Alike (u.change depth turn filter) := by
  -- The changes that the listener makes when it is told nest one less deep.
  induction depth generalizing turn filter t u with
  | zero => exact ⟨h, rfl, rfl⟩
  | succ depth ih =>
    have hcount := h.count turn filter
    simp only [change, h.turned turn filter]
    split
    · refine Changed.Alike.after ?_ rfl
      refine alike_carryOut (fun turn filter t u h => ih h turn filter) ?_ hcount
      rw [← h.listener]
      exact h.ignoresSize _
    · exact ⟨hcount, rfl, rfl⟩

/-! ## Runs -/

/-- Whether a request is for upkeep, and neither changes nor finds out who holds what. -/
def Request.isUpkeep : Request → Bool
  | .command (.subscribe _) | .command (.unsubscribe _) | .command (.query _) | .command .size => false
  | .command .sweep | .command (.sleep _) | .jump _ | .stop | .shutdown => true

/-- How a request is answered, upkeep and sizes apart. -/
structure Answer where
  halt : Option Halt
  notes : List Note
  active : Nat
deriving DecidableEq, Repr

/-- How a request halts. -/
def halt? (t : Tracker) : Request → Option Halt
  | .command command => (t.perform command).halt
  | .jump _ | .stop | .shutdown => none

def answer (t : Tracker) (request : Request) : Answer where
  halt := t.halt? request
  notes := answersIn (t.serve request).2
  active := (t.serve request).1.active

/-- The answers to requests, those for upkeep passed over. -/
def answers : List Request → Tracker → List Answer
  | [], _ => []
  | request :: requests, t =>
    let rest := answers requests (t.serve request).1
    if request.isUpkeep then rest else t.answer request :: rest

theorem callsOn_events_of_isUpkeep {t : Tracker} {request : Request} (h : request.isUpkeep = true)
    (f : String) : callsOn f (t.events request) = [] := by
  match request with
  | .command .sweep => rfl
  | .command (.sleep _) | .jump _ | .stop | .shutdown => exact callsOn_sweepsIn f _

/-- Upkeep leaves a tracker alike. -/
theorem alike_serve_of_isUpkeep {t u : Tracker} (h : t.Alike u) {request : Request}
    (hupkeep : request.isUpkeep = true) : (t.serve request).1.Alike u := by
  have hledger : (t.serve request).1.ledger = t.ledger.replay t.keeper.timer.threshold
    (t.events request) := (accounts_serve t request).ledger
  refine ⟨(listener_serve t request).trans h.listener, ?_, ?_, h.sound', fun f => ?_⟩
  · rw [listener_serve]
    exact h.ignoresSize
  · rw [hledger]
    exact Ledger.sound_replay h.sound _
  · rw [hledger, Ledger.holders_replay h.sound, callsOn_events_of_isUpkeep hupkeep, Turn.tally_nil,
      h.holders]

theorem answer_eq_of_alike {c d : Changed} (h : c.Alike d) :
    (⟨c.halt, answersIn c.notes, c.tracker.active⟩ : Answer) =
      ⟨d.halt, answersIn d.notes, d.tracker.active⟩ := by
  rw [h.halt, h.notes, h.tracker.active]

/-- Trackers that are alike answer alike, and stay so. -/
theorem alike_serve {t u : Tracker} (h : t.Alike u) {request : Request}
    (hvisible : request.isUpkeep = false) :
    (t.serve request).1.Alike (u.serve request).1 ∧ t.answer request = u.answer request := by
  match request with
  | .command (.subscribe filter) =>
    have hchange := alike_change h nestingLimit .first filter
    exact ⟨hchange.tracker, answer_eq_of_alike hchange⟩
  | .command (.unsubscribe filter) =>
    have hchange := alike_change h nestingLimit .last filter
    exact ⟨hchange.tracker, answer_eq_of_alike hchange⟩
  | .command (.query topic) =>
    have hquery : Changed.Alike ⟨t, [(t.query topic).2], none⟩ ⟨u, [(u.query topic).2], none⟩ :=
      ⟨h, rfl, by simp only [query, h.hasAudience topic]⟩
    exact ⟨h, answer_eq_of_alike hquery⟩
  | .command .size =>
    have hsize : Changed.Alike ⟨t, [], none⟩ ⟨u, [], none⟩ := ⟨h, rfl, rfl⟩
    exact ⟨h, answer_eq_of_alike hsize⟩

/-- Without its requests for upkeep a run gives the same answers and leaves a tracker that is
alike. -/
theorem alike_run_visible {t u : Tracker} (h : t.Alike u) (requests : List Request) :
    let visible := requests.filter (!·.isUpkeep)
    t.answers requests = u.answers visible ∧ (t.run requests).1.Alike (u.run visible).1 := by
  induction requests generalizing t u with
  | nil => exact ⟨rfl, h⟩
  | cons request requests ih =>
    cases hupkeep : request.isUpkeep with
    | true =>
      rw [List.filter_cons_of_neg (by simp [hupkeep]), answers, if_pos hupkeep]
      exact ih (alike_serve_of_isUpkeep h hupkeep)
    | false =>
      obtain ⟨hserve, hanswer⟩ := alike_serve h hupkeep
      obtain ⟨hanswers, hrun⟩ := ih hserve
      rw [List.filter_cons_of_pos (by simp [hupkeep])]
      simp only [answers, hupkeep, hanswer, hanswers, Bool.false_eq_true, if_false, true_and]
      exact hrun

/-- Trackers that are alike give the same answers to the same requests, whatever upkeep is asked for
in between, and stay alike. -/
theorem alike_run {t u : Tracker} (h : t.Alike u) {requests more : List Request}
    (hsame : requests.filter (!·.isUpkeep) = more.filter (!·.isUpkeep)) :
    t.answers requests = u.answers more ∧ (t.run requests).1.Alike (u.run more).1 := by
  obtain ⟨hanswers, hrun⟩ := alike_run_visible h requests
  obtain ⟨hanswers', hrun'⟩ := alike_run_visible (h.symm.trans h) more
  rw [hsame] at hanswers hrun
  exact ⟨hanswers.trans hanswers'.symm, hrun.trans hrun'.symm⟩

theorem alike_create {listener : Listener} (h : listener.IgnoresSize)
    (options more : CleanupOptions) : (create listener options).1.Alike (create listener more).1 :=
  ⟨rfl, h, Ledger.sound_empty, Ledger.sound_empty, fun _ => rfl⟩

end Tracker

end Audience
