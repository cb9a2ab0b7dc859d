import Audience.Proofs.Answers

/-!
# Stopping

A timer that was signalled to ends when it next gets to run, before any tick
that is due (`Timer.attend_of_signalled`), so from the signal on it never
sweeps again. Nothing else changes: a keeper whose timer is `Stopped` only
loses entries when it is asked to sweep, and what its users get to see is what
they would have seen of one that goes on (`Tracker.alike_run`).
-/

namespace Audience

/-- Whether a note tells of a scheduled sweep. -/
def Note.isScheduled : Note → Bool
  | .swept sweep => sweep.scheduled
  | _ => false

/-! ## The timer -/

namespace Keeper

/-- Whether the timer has ended, or will as soon as it gets to run. -/
def Stopped (k : Keeper) : Prop := k.timer.phase = .ended ∨ k.timer.line.isSilent = false

/-- What becomes of a keeper whose timer is stopped while time passes: the same ledger, and no
sweep. -/
structure Rests (k : Keeper) (result : Keeper × List Note) : Prop where
  ledger : result.1.ledger = k.ledger
  stopped : result.1.Stopped
  unscheduled : ∀ note ∈ result.2, note.isScheduled = false

variable {k : Keeper}

theorem Rests.refl (h : k.Stopped) : k.Rests (k, []) :=
  ⟨rfl, h, fun _ hmem => absurd hmem List.not_mem_nil⟩

/-- A timer at work that was signalled to ends at once. -/
theorem attend_of_signalled (h : k.timer.line.isSilent = false) (deadline : Nat) :
    k.attend deadline = (k.ended, [.cleanupStopped]) := by
  rw [attend_eq, h, if_neg Bool.false_ne_true]

/-- A stopped timer that gets to run has ended then, and rests. -/
theorem run_of_stopped (h : k.Stopped) : k.run.1.timer.phase = .ended ∧ k.Rests k.run := by
  unfold run
  split
  · next hphase => exact ⟨hphase, .refl h⟩
  · next hphase =>
    rw [attend_of_signalled (h.resolve_left (by rw [hphase]; exact Phase.noConfusion))]
    exact ⟨rfl, rfl, .inl rfl, by simp [Note.isScheduled]⟩
  · next hphase =>
    rw [attend_of_signalled (h.resolve_left (by rw [hphase]; exact Phase.noConfusion))]
    exact ⟨rfl, rfl, .inl rfl, by simp [Note.isScheduled]⟩

theorem tickUntil_of_ended (h : k.timer.phase = .ended) (wake : Nat) :
    k.tickUntil wake = (k, []) := by
  simp only [tickUntil, h]

theorem sleep_of_stopped (h : k.Stopped) (span : Nat) :
    (span ≠ 0 → (k.sleep span).1.timer.phase = .ended) ∧ k.Rests (k.sleep span) := by
  unfold sleep
  split
  · next hspan => exact ⟨fun hne => absurd hspan hne, .refl h⟩
  · obtain ⟨hended, hledger, hstopped, hquiet⟩ := run_of_stopped h
    simp only [tickUntil_of_ended hended, List.append_nil]
    exact ⟨fun _ => hended, hledger, hstopped, hquiet⟩

theorem jump_of_stopped (h : k.Stopped) (span : Nat) :
    (k.jump span).1.timer.phase = .ended ∧ k.Rests (k.jump span) := by
  obtain ⟨hended, hledger, hstopped, hquiet⟩ :=
    run_of_stopped (k := { k with clock := k.clock + span }) h
  exact ⟨hended, hledger, hstopped, hquiet⟩

theorem stopped_stop (k : Keeper) : k.stop.Stopped := .inr rfl

/-- A shutdown ends the timer, stopped before or not. -/
theorem shutdown_ends (k : Keeper) :
    k.shutdown.1.timer.phase = .ended ∧ k.Rests k.shutdown := by
  obtain ⟨hended, hledger, hstopped, hquiet⟩ := run_of_stopped k.stopped_stop
  exact ⟨hended, hledger, hstopped, hquiet⟩

end Keeper

/-! ## Requests -/

namespace Tracker

/-- Whether a request tells the timer to end. -/
def Request.isStop : Request → Bool
  | .stop | .shutdown => true
  | .command _ | .jump _ => false

/-- What becomes of a tracker whose timer is stopped: it stays so, and no sweep is scheduled. -/
structure Rests (result : Tracker × List Note) : Prop where
  stopped : result.1.keeper.Stopped
  unscheduled : ∀ note ∈ result.2, note.isScheduled = false

theorem Rests.trans {first second : Tracker × List Note} (h : Rests first) (h' : Rests second) :
    Rests (second.1, first.2 ++ second.2) :=
  ⟨h'.stopped, List.forall_mem_append.2 ⟨h.unscheduled, h'.unscheduled⟩⟩

theorem unscheduled_change (depth : Nat) (turn : Turn) (filter : String) (t : Tracker) :
    ∀ note ∈ (t.change depth turn filter).notes, note.isScheduled = false :=
  notes_change (·.isScheduled = false) (fun _ => rfl) (fun remark => by cases remark <;> rfl)
    (fun _ _ => rfl) depth turn filter t

theorem rests_change {t : Tracker} (h : t.keeper.Stopped) (depth : Nat) (turn : Turn)
    (filter : String) :
    Rests ((t.change depth turn filter).tracker, (t.change depth turn filter).notes) :=
  ⟨by rw [Keeper.Stopped, timer_change]; exact h, unscheduled_change depth turn filter t⟩

/-- A stopped timer stays so, whatever is asked for. -/
theorem rests_serve {t : Tracker} (h : t.keeper.Stopped) (request : Request) :
    Rests (t.serve request) := by
  match request with
  | .command (.subscribe filter) => exact rests_change h _ .first filter
  | .command (.unsubscribe filter) => exact rests_change h _ .last filter
  | .command (.query _) => exact ⟨h, List.forall_mem_singleton.2 rfl⟩
  | .command .size => exact ⟨h, fun _ hmem => absurd hmem List.not_mem_nil⟩
  | .command .sweep => exact ⟨h, List.forall_mem_singleton.2 rfl⟩
  | .command (.sleep span) =>
    obtain ⟨-, -, hstopped, hquiet⟩ := Keeper.sleep_of_stopped h span
    exact ⟨hstopped, hquiet⟩
  | .jump span =>
    obtain ⟨-, -, hstopped, hquiet⟩ := Keeper.jump_of_stopped h span
    exact ⟨hstopped, hquiet⟩
  | .stop => exact ⟨t.keeper.stopped_stop, fun _ hmem => absurd hmem List.not_mem_nil⟩
  | .shutdown =>
    obtain ⟨-, -, hstopped, hquiet⟩ := t.keeper.shutdown_ends
    exact ⟨hstopped, hquiet⟩

/-- A request to end stops the timer. -/
theorem rests_of_isStop {request : Request} (h : request.isStop = true) (t : Tracker) :
    Rests (t.serve request) := by
  match request with
  | .stop => exact ⟨t.keeper.stopped_stop, fun _ hmem => absurd hmem List.not_mem_nil⟩
  | .shutdown =>
    obtain ⟨-, -, hstopped, hquiet⟩ := t.keeper.shutdown_ends
    exact ⟨hstopped, hquiet⟩

theorem rests_run {t : Tracker} (h : t.keeper.Stopped) (requests : List Request) :
    Rests (t.run requests) := by
  induction requests generalizing t with
  | nil => exact ⟨h, fun _ hmem => absurd hmem List.not_mem_nil⟩
  | cons request requests ih =>
    have hserve := rests_serve h request
    exact hserve.trans (ih hserve.stopped)

/-! ### The timer has ended -/

/-- Once a stopped timer gets to run it has ended. -/
theorem ended_of_givesWay {t : Tracker} (h : t.keeper.Stopped) {request : Request}
    (hway : request.givesWay = true) : (t.serve request).1.keeper.timer.phase = .ended := by
  match request with
  | .command (.sleep span) =>
    exact (Keeper.sleep_of_stopped h span).1 (by simpa [Request.givesWay] using hway)
  | .jump span => exact (Keeper.jump_of_stopped h span).1
  | .shutdown => exact t.keeper.shutdown_ends.1

theorem ended_serve {t : Tracker} (h : t.keeper.timer.phase = .ended) (request : Request) :
    (t.serve request).1.keeper.timer.phase = .ended := by
  cases hway : request.givesWay with
  | true => exact ended_of_givesWay (.inl h) hway
  | false =>
    match request with
    | .command (.subscribe _) | .command (.unsubscribe _) =>
      exact (congrArg Timer.phase (timer_change ..)).trans h
    | .command (.query _) | .command .size | .command .sweep | .stop => exact h
    | .command (.sleep span) =>
      obtain rfl : span = 0 := by simpa [Request.givesWay] using hway
      exact h

theorem ended_run {t : Tracker} (h : t.keeper.timer.phase = .ended) (requests : List Request) :
    (t.run requests).1.keeper.timer.phase = .ended := by
  induction requests generalizing t with
  | nil => exact h
  | cons request requests ih => exact ih (ended_serve h request)

theorem ended_run_of_givesWay {t : Tracker} (h : t.keeper.Stopped) {requests : List Request}
    (hway : ∃ request ∈ requests, request.givesWay = true) :
    (t.run requests).1.keeper.timer.phase = .ended := by
  obtain ⟨request, hmem, hgives⟩ := hway
  obtain ⟨before, after, rfl⟩ := List.append_of_mem hmem
  rw [fst_run_append]
  exact ended_run (ended_of_givesWay (rests_run h before).stopped hgives) after

/-! ### What stays tracked -/

/-- Whether a filter is tracked. -/
def Tracks (t : Tracker) (f : String) : Prop := (t.ledger.find? f).isSome

theorem Tracks.of_ledger_eq {t u : Tracker} {f : String} (ht : t.Tracks f)
    (h : u.keeper.ledger = t.keeper.ledger) : u.Tracks f := by
  rw [Tracks, ledger, h]
  exact ht

theorem tracks_change {t : Tracker} {f : String} (h : t.Tracks f) (depth : Nat) (turn : Turn)
    (filter : String) : (t.change depth turn filter).tracker.Tracks f := by
  refine change_preserves (·.Tracks f) (fun turn filter t ht => ?_) depth turn filter h
  cases turn with
  | first =>
    show ((t.ledger.subscribe filter).1.find? f).isSome
    rw [Ledger.find?_subscribe]
    split
    · rfl
    · exact ht
  | last =>
    show ((t.ledger.unsubscribe t.clock filter).1.find? f).isSome
    rw [Ledger.find?_unsubscribe]
    split
    · rw [Option.isSome_map]
      exact ht
    · exact ht

/-- While the timer is stopped, and when it is told to end, only a sweep that is asked for makes a
filter cease to be tracked. -/
theorem tracks_serve {t : Tracker} {request : Request}
    (h : t.keeper.Stopped ∨ request.isStop = true) (hsweep : request ≠ .command .sweep) {f : String}
    (htracks : t.Tracks f) : (t.serve request).1.Tracks f := by
  match request with
  | .command (.subscribe filter) => exact tracks_change htracks _ .first filter
  | .command (.unsubscribe filter) => exact tracks_change htracks _ .last filter
  | .command (.query _) | .command .size | .stop => exact htracks
  | .command .sweep => exact absurd rfl hsweep
  | .command (.sleep span) =>
    have hledger := (Keeper.sleep_of_stopped (h.resolve_right Bool.false_ne_true) span).2.ledger
    exact htracks.of_ledger_eq hledger
  | .jump span =>
    have hledger := (Keeper.jump_of_stopped (h.resolve_right Bool.false_ne_true) span).2.ledger
    exact htracks.of_ledger_eq hledger
  | .shutdown => exact htracks.of_ledger_eq t.keeper.shutdown_ends.2.ledger

/-! ## What that comes to -/

theorem isUpkeep_of_isStop {request : Request} (h : request.isStop = true) :
    request.isUpkeep = true := by
  match request with
  | .stop | .shutdown => rfl

/-- Requests that are the same but for those to end the timer are the same but for upkeep. -/
theorem filter_isUpkeep_of_filter_isStop {requests more : List Request}
    (h : requests.filter (!·.isStop) = more.filter (!·.isStop)) :
    requests.filter (!·.isUpkeep) = more.filter (!·.isUpkeep) := by
  have hfilter (requests : List Request) : (requests.filter (!·.isStop)).filter (!·.isUpkeep) =
      requests.filter (!·.isUpkeep) := by
    rw [List.filter_filter]
    refine List.filter_congr fun request _ => ?_
    cases hstop : request.isStop with
    | true => simp [isUpkeep_of_isStop hstop]
    | false => simp
  rw [← hfilter requests, h, hfilter]

/-- Once the timer has been told to end, before it first runs or between ticks or with any number of
them due, no scheduled sweep ever comes again, and only a sweep that is asked for makes a filter
cease to be tracked. The timer is not running once it got to run, nor ever after; a shutdown sees to
that at once. Everything else goes on as without such requests, one or many: the same answers, the
same transitions told to the listener, the same numbers and queries. The listener may look at the
size, which the lack of sweeps shows in, if it does not act on it. -/
theorem quiet_run_of_stop (listener : Listener) (options : CleanupOptions)
    (before after : List Request) (ending : Request) (isStop : ending.isStop = true) :
    let start := (create listener options).1
    let reached := (start.run before).1
    (∀ note ∈ (reached.run (ending :: after)).2, note.isScheduled = false) ∧
      (∀ mid request rest, ending :: after = mid ++ request :: rest → request ≠ .command .sweep →
        ∀ f, (reached.run mid).1.Tracks f → (reached.run (mid ++ [request])).1.Tracks f) ∧
      (ending = .shutdown ∨ (∃ request ∈ after, request.givesWay = true) →
        (reached.run (ending :: after)).1.isRunning = false) ∧
      (listener.IgnoresSize → ∀ other : List Request,
        other.filter (!·.isStop) = (before ++ ending :: after).filter (!·.isStop) →
          let stopped := (start.run (before ++ ending :: after)).1
          let goesOn := (start.run other).1
          start.answers (before ++ ending :: after) = start.answers other ∧
            stopped.active = goesOn.active ∧
            (∀ topic, stopped.hasAudience topic = goesOn.hasAudience topic) ∧
            ∀ f, stopped.ledger.holders f = goesOn.ledger.holders f) := by
  intro start reached
  have hstop := rests_of_isStop isStop reached
  refine ⟨(hstop.trans (rests_run hstop.stopped after)).unscheduled, ?_, ?_, ?_⟩
  · intro mid request rest hcut hsweep f htracks
    rw [fst_run_append]
    refine tracks_serve ?_ hsweep htracks
    cases mid with
    | nil =>
      obtain ⟨rfl, -⟩ := List.cons.inj hcut
      exact .inr isStop
    | cons first mid =>
      obtain ⟨rfl, -⟩ := List.cons.inj hcut
      exact .inl (rests_run hstop.stopped mid).stopped
  · intro hway
    have hended : (reached.run (ending :: after)).1.keeper.timer.phase = .ended := by
      rcases hway with rfl | hway
      · exact ended_run reached.keeper.shutdown_ends.1 after
      · exact ended_run_of_givesWay hstop.stopped hway
    rw [isRunning, Timer.isRunning, hended]
    rfl
  · intro hignores other hother
    obtain ⟨hanswers, halike⟩ := alike_run (alike_create hignores options options)
      (filter_isUpkeep_of_filter_isStop hother.symm)
    exact ⟨hanswers, halike.active, halike.hasAudience, halike.holders⟩

/-- Two requests to end come before the timer first runs, and ten seconds of ticks come to nothing. -/
theorem quiet_after_two_stops :
    let listener : Listener := .leaf fun transition => .ask transition.filter fun sight =>
      .note (.reported ⟨"seen", transition, some sight⟩) .done
    let before : List Request := [.command (.subscribe "a"), .command (.unsubscribe "a")]
    let later : Request := .jump (10 * Time.perSecond)
    let start := (create listener ⟨0, 0⟩).1
    let last := ((start.run before).1.run [.stop, .stop, later]).1
    Request.stop.isStop = true ∧ listener.IgnoresSize ∧ last.Tracks "a" ∧ last.isRunning = false ∧
      start.answers (before ++ [.stop, .stop, later]) = start.answers (before ++ [later]) := by
  intro listener before later start last
  have hignores : listener.IgnoresSize := fun _ => .ask _ fun _ _ _ => .note rfl .done
  obtain ⟨-, htracks, hrunning, hsame⟩ :=
    quiet_run_of_stop listener ⟨0, 0⟩ before [.stop, later] .stop rfl
  have hreached : (start.run before).1.Tracks "a" := rfl
  have hfirst := htracks [] .stop [.stop, later] rfl (by decide) "a" hreached
  have hsecond := htracks [.stop] .stop [later] rfl (by decide) "a" hfirst
  have hlast := htracks [.stop, .stop] later [] rfl (by decide) "a" hsecond
  exact ⟨rfl, hignores, hlast, hrunning (.inr ⟨later, by simp, rfl⟩),
    (hsame hignores (before ++ [later]) rfl).1⟩

end Tracker

end Audience
