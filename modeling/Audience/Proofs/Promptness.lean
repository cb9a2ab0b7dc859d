import Audience.Proofs.Retention

/-!
# How soon a filter is swept

A timer that nobody told to end has always fired lately: its deadline is at
most a period after a tick that fired (`Ticking`), and the clock does not pass
the deadline, rounded up to the clock's grain, without another one
(`ticking_run`, `ticking_tickUntil`). So at any moment a sweep came less than a
period and a grain ago (`SweptLately`), however the clock has moved, and a
filter that has been idle for longer than that on top of the grace period is
gone (`find?_of_overdue`).

There is one exception, at the very start. The first deadline is the clock at
which the timer first runs (`Tracker.firstRun`), and if a jump has taken the
clock to a fraction of a millisecond by then, the first tick waits for the next
whole one (`AwaitsFirstTick`). Outside that time
`Tracker.untracked_run_of_overdue` holds of every run;
`Tracker.tracked_before_first_tick` is a run that is still in it.
-/

namespace Audience

/-! ## Ticks -/

/-- Whether the deadline that ticks leave is at most a period after the latest of them, or after
`fired` if there are none. -/
def Ticks.Follow (period fired : Nat) (ticks : Ticks) : Prop :=
  ∃ last, (last = fired ∨ .sweep last ∈ sweepsIn ticks.notes) ∧ ticks.deadline ≤ last + period

/-- A tick at `now` and then others. -/
theorem Ticks.Follow.cons {period now threshold : Nat} {l left : Ledger} {note : Note}
    {rest : Ticks} (hswept : l.sweepNoted true now threshold = (left, note))
    (h : rest.Follow period now) :
    ∃ last, .sweep last ∈ sweepsIn (note :: rest.notes) ∧ rest.deadline ≤ last + period := by
  obtain ⟨last, hlast, hle⟩ := h
  refine ⟨last, ?_, hle⟩
  rw [sweepsIn_cons_of_sweepNoted hswept, List.mem_cons]
  exact hlast.imp (congrArg Event.sweep) id

namespace Timer

variable {interval threshold deadline : Nat} {l : Ledger}

theorem nextDeadline_le {now : Nat} (due : deadline ≤ now) :
    nextDeadline interval now deadline ≤ now + periodOf interval := by
  unfold nextDeadline followingDeadline
  split <;> omega

theorem follow_fireDue {now : Nat} : ∀ fired, deadline ≤ fired + periodOf interval →
    (fireDue interval threshold now deadline l).Follow (periodOf interval) fired := by
  fun_induction fireDue interval threshold now deadline l with
  | case1 deadline l due left note hswept rest ih =>
    intro fired _
    obtain ⟨last, hlast, hle⟩ :=
      Ticks.Follow.cons hswept (ih now (nextDeadline_le ((Time.le_ceilMs deadline).trans due)))
    exact ⟨last, .inr hlast, hle⟩
  | case2 => exact fun fired h => ⟨fired, .inl rfl, h⟩

/-- A tick that is due fires. -/
theorem exists_fireDue {now : Nat} (due : Time.ceilMs deadline ≤ now) :
    ∃ last, .sweep last ∈ sweepsIn (fireDue interval threshold now deadline l).notes ∧
      (fireDue interval threshold now deadline l).deadline ≤ last + periodOf interval := by
  rw [fireDue, if_pos due]
  exact Ticks.Follow.cons rfl
    (follow_fireDue now (nextDeadline_le ((Time.le_ceilMs deadline).trans due)))

theorem follow_fireUntil {wake : Nat} : ∀ fired, deadline ≤ fired + periodOf interval →
    (fireUntil interval threshold wake deadline l).Follow (periodOf interval) fired := by
  fun_induction fireUntil interval threshold wake deadline l with
  | case1 deadline l early now left note hswept rest ih =>
    intro fired _
    obtain ⟨last, hlast, hle⟩ :=
      Ticks.Follow.cons hswept (ih now (nextDeadline_le (Time.le_ceilMs deadline)))
    exact ⟨last, .inr hlast, hle⟩
  | case2 => exact fun fired h => ⟨fired, .inl rfl, h⟩

/-- A tick that comes up before waking fires. -/
theorem exists_fireUntil {wake : Nat} (early : Time.ceilMs deadline < wake) :
    ∃ last, .sweep last ∈ sweepsIn (fireUntil interval threshold wake deadline l).notes ∧
      (fireUntil interval threshold wake deadline l).deadline ≤ last + periodOf interval := by
  rw [fireUntil, if_pos early]
  exact Ticks.Follow.cons rfl
    (follow_fireUntil (Time.ceilMs deadline) (nextDeadline_le (Time.le_ceilMs deadline)))

/-- On waking the clock has not passed the deadline. -/
theorem le_deadline_fireUntil {wake : Nat} :
    wake ≤ Time.ceilMs (fireUntil interval threshold wake deadline l).deadline := by
  fun_induction fireUntil interval threshold wake deadline l with
  | case1 deadline l early now left note hswept rest ih => exact ih
  | case2 deadline l late => exact Nat.le_of_not_lt late

end Timer

/-! ## The timer of a keeper -/

/-- Whether some sweep of a history came less than a period and the clock's grain before `now`, or
the clock has not moved yet. -/
def SweptLately (period : Nat) (history : List Event) (now : Nat) : Prop :=
  now = 0 ∨ ∃ fired, .sweep fired ∈ history ∧ now < fired + period + Time.perMillisecond

theorem SweptLately.mono {period now : Nat} {history : List Event}
    (h : SweptLately period history now) (more : List Event) :
    SweptLately period (history ++ more) now :=
  h.imp_right fun ⟨fired, hfired, hlt⟩ => ⟨fired, List.mem_append_left _ hfired, hlt⟩

/-- Whether the clock has not passed the first tick of a timer that first ran at `origin`, and that
tick did not come at once. -/
structure BeforeFirstTick (origin now : Nat) : Prop where
  fraction : origin % Time.perMillisecond ≠ 0
  early : now ≤ Time.ceilMs origin

/-- Whether, besides, nothing has been swept since the timer first ran. -/
structure AwaitsFirstTick (origin : Nat) (history : List Event) (now : Nat) : Prop
    extends BeforeFirstTick origin now where
  unswept : ∀ fired, .sweep fired ∈ history → fired < origin

/-- Whatever is swept before the first tick is swept lately. -/
theorem BeforeFirstTick.sweptLately {origin now : Nat} {history : List Event}
    (h : BeforeFirstTick origin now) (past : ¬ AwaitsFirstTick origin history now) (period : Nat) :
    SweptLately period history now := by
  obtain ⟨fired, hfired, hle⟩ : ∃ fired, .sweep fired ∈ history ∧ origin ≤ fired := by
    by_contra hunswept
    push Not at hunswept
    exact past ⟨h, hunswept⟩
  have := h.early
  have := Time.ceilMs_lt origin
  exact .inr ⟨fired, hfired, by omega⟩

/-- Whether a deadline is at most a period after a sweep of a history, or the first of a timer that
first ran at `origin`, a fraction of a millisecond. -/
def Expected (period origin : Nat) (history : List Event) (deadline : Nat) : Prop :=
  (∃ fired, .sweep fired ∈ history ∧ deadline ≤ fired + period) ∨
    deadline = origin ∧ origin % Time.perMillisecond ≠ 0

theorem Expected.mono {period origin deadline : Nat} {history : List Event}
    (h : Expected period origin history deadline) (more : List Event) :
    Expected period origin (history ++ more) deadline :=
  h.imp_left fun ⟨fired, hfired, hle⟩ => ⟨fired, List.mem_append_left _ hfired, hle⟩

namespace Keeper

/-- Whether the timer has yet to run, and nobody has signalled to it. -/
structure Fresh (interval : Nat) (k : Keeper) : Prop where
  interval_eq : k.timer.interval = interval
  silent : k.timer.line.isSilent = true
  unstarted : k.timer.phase = .unstarted

/-- Whether the timer waits for a deadline that is expected after a history, and nobody has signalled
to it. -/
structure Ticking (interval origin : Nat) (history : List Event) (k : Keeper) : Prop where
  interval_eq : k.timer.interval = interval
  silent : k.timer.line.isSilent = true
  waits : ∃ deadline, k.timer.phase = .waiting deadline ∧
    Expected (Timer.periodOf interval) origin history deadline

/-- Whether the clock has not passed the deadline. -/
def InTime (k : Keeper) : Prop :=
  ∀ deadline, k.timer.phase = .waiting deadline → k.clock ≤ Time.ceilMs deadline

/-- What is true of a keeper after a history in which nobody told the timer to end. -/
def Lively (interval origin : Nat) (history : List Event) (k : Keeper) : Prop :=
  k.Fresh interval ∧ k.clock = 0 ∨ k.Ticking interval origin history ∧ k.InTime

variable {interval origin : Nat} {history : List Event} {k : Keeper}

theorem Ticking.mono (h : k.Ticking interval origin history) (more : List Event) :
    k.Ticking interval origin (history ++ more) := by
  obtain ⟨deadline, hphase, hexpected⟩ := h.waits
  exact ⟨h.interval_eq, h.silent, deadline, hphase, hexpected.mono more⟩

/-- What leaves the timer and the clock alone keeps the timer lively. -/
theorem Lively.of_same (h : k.Lively interval origin history) {k' : Keeper} (more : List Event)
    (timer : k'.timer = k.timer) (clock : k'.clock = k.clock) :
    k'.Lively interval origin (history ++ more) := by
  rcases h with ⟨hfresh, hclock⟩ | ⟨hticking, hinTime⟩
  · exact .inl ⟨⟨timer ▸ hfresh.1, timer ▸ hfresh.2, timer ▸ hfresh.3⟩, clock.trans hclock⟩
  · have hmore := hticking.mono more
    exact .inr ⟨⟨timer ▸ hmore.1, timer ▸ hmore.2, timer ▸ hmore.3⟩, by
      rw [InTime, timer, clock]; exact hinTime⟩

theorem Lively.sweptLately (h : k.Lively interval origin history) :
    SweptLately (Timer.periodOf interval) history k.clock ∨ BeforeFirstTick origin k.clock := by
  rcases h with ⟨-, hclock⟩ | ⟨hticking, hinTime⟩
  · exact .inl (.inl hclock)
  · obtain ⟨deadline, hphase, ⟨fired, hfired, hle⟩ | ⟨rfl, hfraction⟩⟩ := hticking.waits
    · have := hinTime deadline hphase
      have := Time.ceilMs_lt deadline
      exact .inl (.inr ⟨fired, hfired, by omega⟩)
    · exact .inr ⟨hfraction, hinTime deadline hphase⟩

/-! ### Work while the clock stands still -/

/-- A timer at work goes on ticking if it ticked, and starts to if a tick is due. -/
theorem ticking_attend (interval_eq : k.timer.interval = interval)
    (silent : k.timer.line.isSilent = true) {deadline : Nat}
    (h : Time.ceilMs deadline ≤ k.clock ∨
      Expected (Timer.periodOf interval) origin history deadline) :
    (k.attend deadline).1.Ticking interval origin (history ++ sweepsIn (k.attend deadline).2) := by
  subst interval_eq
  rw [attend_eq, if_pos silent]
  by_cases due : Time.ceilMs deadline ≤ k.clock
  · obtain ⟨last, hlast, hle⟩ := Timer.exists_fireDue due
    exact ⟨rfl, silent, _, rfl, .inl ⟨last, List.mem_append_right _ hlast, hle⟩⟩
  · rw [fire, Timer.fireDue, if_neg due]
    exact ⟨rfl, silent, deadline, rfl, (h.resolve_left due).mono _⟩

/-- The timer ticks once it has run. -/
theorem ticking_run
    (h : k.Fresh interval ∧ (k.clock % Time.perMillisecond ≠ 0 → k.clock = origin) ∨
      k.Ticking interval origin history) :
    k.run.1.Ticking interval origin (history ++ sweepsIn k.run.2) := by
  unfold run
  rcases h with ⟨⟨hinterval, hsilent, hphase⟩, hfirst⟩ |
    ⟨hinterval, hsilent, deadline, hphase, hexpected⟩
  · rw [hphase]
    refine ticking_attend hinterval hsilent ?_
    by_cases hgrain : k.clock % Time.perMillisecond = 0
    · exact .inl (Time.ceilMs_eq_self hgrain).le
    · exact .inr (.inr ⟨hfirst hgrain, hfirst hgrain ▸ hgrain⟩)
  · rw [hphase]
    exact ticking_attend hinterval hsilent (.inr hexpected)

/-! ### Time passing -/

theorem ticking_tickUntil (h : k.Ticking interval origin history) (wake : Nat) :
    (k.tickUntil wake).1.Ticking interval origin (history ++ sweepsIn (k.tickUntil wake).2) ∧
      { (k.tickUntil wake).1 with clock := wake }.InTime := by
  obtain ⟨rfl, silent, deadline, hphase, hexpected⟩ := h
  simp only [tickUntil, hphase]
  refine ⟨?_, fun next hnext => ?_⟩
  · by_cases early : Time.ceilMs deadline < wake
    · obtain ⟨last, hlast, hle⟩ := Timer.exists_fireUntil early
      exact ⟨rfl, silent, _, rfl, .inl ⟨last, List.mem_append_right _ hlast, hle⟩⟩
    · rw [Timer.fireUntil, if_neg early]
      exact ⟨rfl, silent, deadline, rfl, hexpected.mono _⟩
  · obtain rfl := Phase.waiting.inj hnext
    exact Timer.le_deadline_fireUntil

theorem lively_sleep (h : k.Lively interval origin history) (span : Nat) :
    (k.sleep span).1.Lively interval origin (history ++ sweepsIn (k.sleep span).2) := by
  unfold sleep
  split
  · exact h.of_same _ rfl rfl
  · have hrun : k.run.1.Ticking interval origin (history ++ sweepsIn k.run.2) := by
      refine ticking_run (h.imp (fun ⟨hfresh, hclock⟩ => ⟨hfresh, fun hfraction => ?_⟩) And.left)
      exact absurd (by rw [hclock, Nat.zero_mod]) hfraction
    obtain ⟨⟨hinterval, hsilent, hwaits⟩, hinTime⟩ :=
      ticking_tickUntil hrun (Time.ceilMs (k.clock + min span Time.longestWait))
    rw [List.append_assoc, ← sweepsIn_append] at hwaits
    exact .inr ⟨⟨hinterval, hsilent, hwaits⟩, hinTime⟩

theorem lively_jump (h : k.Lively interval origin history) {span : Nat}
    (first : k.timer.phase = .unstarted → span = origin) :
    (k.jump span).1.Lively interval origin (history ++ sweepsIn (k.jump span).2) := by
  let moved : Keeper := { k with clock := k.clock + span }
  have hrun : moved.run.1.Ticking interval origin (history ++ sweepsIn moved.run.2) := by
    rcases h with ⟨hfresh, hclock⟩ | ⟨hticking, -⟩
    · refine ticking_run (.inl ⟨⟨hfresh.1, hfresh.2, hfresh.3⟩, fun _ => ?_⟩)
      show k.clock + span = origin
      rw [hclock, Nat.zero_add, first hfresh.unstarted]
    · exact ticking_run (.inr ⟨hticking.1, hticking.2, hticking.3⟩)
  refine .inr ⟨hrun, fun deadline hphase => ?_⟩
  have hsettled := settled_run moved deadline hphase
  exact hsettled.le

theorem clock_sleep {span : Nat} (hspan : span ≠ 0) (k : Keeper) :
    (k.sleep span).1.clock = Time.ceilMs (k.clock + min span Time.longestWait) := by
  rw [sleep, if_neg hspan]

theorem clock_jump (k : Keeper) (span : Nat) : (k.jump span).1.clock = k.clock + span :=
  clock_run { k with clock := k.clock + span }

/-! ### Having run -/

theorem phase_attend_ne_unstarted (k : Keeper) (deadline : Nat) :
    (k.attend deadline).1.timer.phase ≠ .unstarted := by
  rw [attend_eq]
  split
  · exact Phase.noConfusion
  · exact Phase.noConfusion

theorem phase_run_ne_unstarted (k : Keeper) : k.run.1.timer.phase ≠ .unstarted := by
  unfold run
  split
  · next hphase => rw [hphase]; exact Phase.noConfusion
  · exact phase_attend_ne_unstarted k _
  · exact phase_attend_ne_unstarted k _

theorem phase_tickUntil_ne_unstarted {k : Keeper} (h : k.timer.phase ≠ .unstarted) (wake : Nat) :
    (k.tickUntil wake).1.timer.phase ≠ .unstarted := by
  unfold tickUntil
  split
  · exact Phase.noConfusion
  · exact h

theorem phase_sleep_ne_unstarted {span : Nat} (hspan : span ≠ 0) (k : Keeper) :
    (k.sleep span).1.timer.phase ≠ .unstarted := by
  rw [sleep, if_neg hspan]
  exact phase_tickUntil_ne_unstarted (phase_run_ne_unstarted k) _

end Keeper

/-! ## Runs -/

namespace Tracker

/-- A timer that has yet to run had yet to before the request too, and did not get to run. -/
theorem unstarted_of_serve {t : Tracker} {request : Request}
    (h : (t.serve request).1.keeper.timer.phase = .unstarted) :
    t.keeper.timer.phase = .unstarted ∧ request.givesWay = false := by
  match request with
  | .command (.subscribe filter) => exact ⟨(timer_change ..) ▸ h, rfl⟩
  | .command (.unsubscribe filter) => exact ⟨(timer_change ..) ▸ h, rfl⟩
  | .command (.query _) | .command .size | .command .sweep | .stop => exact ⟨h, rfl⟩
  | .command (.sleep span) =>
    rcases eq_or_ne span 0 with rfl | hspan
    · exact ⟨h, rfl⟩
    · exact absurd h (Keeper.phase_sleep_ne_unstarted hspan t.keeper)
  | .jump span => exact absurd h (Keeper.phase_run_ne_unstarted _)
  | .shutdown => exact absurd h (Keeper.phase_run_ne_unstarted _)

theorem clock_jump (t : Tracker) (span : Nat) : (t.jump span).1.clock = t.clock + span :=
  Keeper.clock_jump t.keeper span

/-- The calls of a request come while the clock stands still. -/
theorem instant_of_call {t : Tracker} {request : Request} {now : Nat} {turn : Turn} {f : String}
    {told : Bool} (h : .call now turn f told ∈ t.events request) : now = t.clock := by
  have hwithin := (accounts_serve t request).within _ h
  match request with
  | .command (.subscribe filter) =>
    exact Nat.le_antisymm (hwithin.2.trans (clock_change ..).le) hwithin.1
  | .command (.unsubscribe filter) =>
    exact Nat.le_antisymm (hwithin.2.trans (clock_change ..).le) hwithin.1
  | .command .sweep => exact nomatch List.mem_singleton.1 h
  | .command (.query _) | .command .size | .command (.sleep _) | .jump _ | .stop | .shutdown =>
    obtain ⟨_, hsweep⟩ := exists_of_mem_sweepsIn h
    exact nomatch hsweep

/-- When a timer of a tracker at the start of the clock first runs. Up to the first request that lets
it the clock stands still, and a jump moves it before. -/
def firstRun (requests : List Request) : Nat :=
  match requests.find? (·.givesWay) with
  | some (.jump span) => span
  | _ => 0

theorem firstRun_cons_of_stays {request : Request} (h : request.givesWay = false)
    (requests : List Request) : firstRun (request :: requests) = firstRun requests := by
  rw [firstRun, firstRun, List.find?_cons, h]

theorem firstRun_cons_jump (span : Nat) (requests : List Request) :
    firstRun (.jump span :: requests) = span := rfl

/-- Jumps of whole milliseconds let it run at a whole one. -/
theorem whole_firstRun {requests : List Request}
    (whole : ∀ span, .jump span ∈ requests → span % Time.perMillisecond = 0) :
    firstRun requests % Time.perMillisecond = 0 := by
  unfold firstRun
  split
  · next span hfind => exact whole span (List.mem_of_find?_eq_some hfind)
  · rfl

variable {interval origin : Nat} {past : List Event}

theorem lively_serve {t : Tracker} {request : Request} (h : t.keeper.Lively interval origin past)
    (goesOn : request ≠ .stop ∧ request ≠ .shutdown)
    (first : ∀ span, request = .jump span → t.keeper.timer.phase = .unstarted → span = origin) :
    (t.serve request).1.keeper.Lively interval origin (past ++ t.events request) := by
  match request with
  | .command (.subscribe filter) => exact h.of_same _ (timer_change ..) (clock_change ..)
  | .command (.unsubscribe filter) => exact h.of_same _ (timer_change ..) (clock_change ..)
  | .command (.query _) | .command .size | .command .sweep => exact h.of_same _ rfl rfl
  | .command (.sleep span) => exact Keeper.lively_sleep h span
  | .jump span => exact Keeper.lively_jump h (first span rfl)
  | .stop => exact absurd rfl goesOn.1
  | .shutdown => exact absurd rfl goesOn.2

/-- Where a list of events is cut before one of them, in its first part or in its second. -/
theorem append_eq_append_cons {first second before after : List Event} {event : Event}
    (h : first ++ second = before ++ event :: after) :
    (∃ rest, first = before ++ event :: rest) ∨
      ∃ start, before = first ++ start ∧ second = start ++ event :: after := by
  rcases List.append_eq_append_iff.1 h with ⟨start, hbefore, hsecond⟩ | ⟨rest, hfirst, hrest⟩
  · exact .inr ⟨start, hbefore, hsecond⟩
  · cases rest with
    | nil => exact .inr ⟨[], by simpa using hfirst.symm, by simpa using hrest.symm⟩
    | cons e rest =>
      obtain ⟨rfl, -⟩ := List.cons.inj hrest
      exact .inl ⟨rest, hfirst⟩

/-- While nobody tells the timer to end, it stays lively, and at every call some sweep came lately
unless the clock has not passed the first tick. -/
theorem lively_run {t : Tracker} {requests : List Request}
    (h : t.keeper.Lively interval origin past)
    (goesOn : ∀ request ∈ requests, request ≠ .stop ∧ request ≠ .shutdown)
    (first : t.keeper.timer.phase = .unstarted → firstRun requests = origin) :
    (t.run requests).1.keeper.Lively interval origin (past ++ t.history requests) ∧
      ∀ before now turn f told after, t.history requests = before ++ .call now turn f told :: after →
        SweptLately (Timer.periodOf interval) (past ++ before) now ∨ BeforeFirstTick origin now := by
  induction requests generalizing t past with
  | nil =>
    refine ⟨by rw [history, List.append_nil]; exact h, fun before _ _ _ _ _ hcut => ?_⟩
    exact absurd hcut.symm (List.append_ne_nil_of_right_ne_nil _ (List.cons_ne_nil _ _))
  | cons request requests ih =>
    have hserve := lively_serve h (goesOn request List.mem_cons_self) fun span hjump hphase => by
      rw [← first hphase, hjump, firstRun_cons_jump]
    obtain ⟨hlively, hcalls⟩ := ih hserve (fun r hr => goesOn r (List.mem_cons_of_mem _ hr))
      fun hphase => by
        obtain ⟨hbefore, hstays⟩ := unstarted_of_serve hphase
        rw [← first hbefore, firstRun_cons_of_stays hstays]
    refine ⟨by rw [history, ← List.append_assoc]; exact hlively, ?_⟩
    intro before now turn f told after hcut
    rcases append_eq_append_cons hcut with ⟨rest, hfirst⟩ | ⟨start, rfl, hsecond⟩
    · have hmem : .call now turn f told ∈ t.events request := by
        rw [hfirst]
        exact List.mem_append_right _ List.mem_cons_self
      rw [instant_of_call hmem]
      exact h.sweptLately.imp_left fun hswept => hswept.mono before
    · rw [← List.append_assoc]
      exact hcalls start now turn f told after hsecond

end Tracker

/-! ## What that comes to -/

/-- Whether a filter has been without a holder, and nobody subscribed to it, for the grace period, a
period of the timer and the clock's grain. -/
def Overdue (options : CleanupOptions) (f : String) (history : List Event) (now : Nat) : Prop :=
  ∃ since later, EmptiedLast f history since later ∧ .first ∉ callsOn f later ∧
    since + options.threshold + Timer.periodOf options.interval + Time.perMillisecond ≤ now

/-- A filter that lost its only holder at the start is overdue once the clock is that far, whatever
was swept. -/
theorem overdue_of_sweeps {options : CleanupOptions} {now : Nat} (f : String) (notes : List Note)
    (h : options.threshold + Timer.periodOf options.interval + Time.perMillisecond ≤ now) :
    Overdue options f (.call 0 .first f true :: .call 0 .last f true :: sweepsIn notes) now := by
  refine ⟨0, sweepsIn notes, ⟨[.call 0 .first f true], _, rfl, ⟨if_pos rfl, ?_⟩, rfl, ?_⟩, ?_, ?_⟩
  · simp [tally, callsOn, Event.turnOn?, Turn.tally, Turn.adjust]
  · rintro between next rest hcut ⟨hturn, -⟩
    obtain ⟨now, rfl⟩ := exists_of_mem_sweepsIn (hcut ▸ by simp : next ∈ sweepsIn notes)
    cases hturn
  · rw [callsOn_sweepsIn]
    exact List.not_mem_nil
  · rwa [Nat.zero_add]

/-- An overdue filter is gone if some sweep came lately. -/
theorem find?_of_overdue {options : CleanupOptions} {f : String} {history : List Event} {now : Nat}
    (hsorted : InOrder history) (h : Overdue options f history now)
    (hswept : SweptLately (Timer.periodOf options.interval) history now) :
    (Ledger.ofHistory options.threshold history).find? f = none := by
  obtain ⟨since, later, hlast, hquiet, hoverdue⟩ := h
  rcases hswept with rfl | ⟨fired, hfired, hlt⟩
  · exact absurd (Nat.le_trans (Nat.le_add_left _ _) hoverdue) (by decide)
  have hafter : since + options.threshold < fired := by omega
  -- The sweep came after the filter lost its last holder, since it is later on the clock.
  have hmem : .sweep fired ∈ later := by
    obtain ⟨before, loss, rfl, -, rfl, -⟩ := hlast
    rcases List.mem_append.1 hfired with hearly | hfired
    · have := (List.pairwise_append.1 hsorted).2.2 _ hearly loss List.mem_cons_self
      simp only [Event.instant] at this hafter
      omega
    · rcases List.mem_cons.1 hfired with rfl | hlate
      · simp only [Event.instant] at hafter
        omega
      · exact hlate
  rw [← Option.not_isSome_iff_eq_none, Ledger.isSome_find?_ofHistory_iff hsorted]
  rintro ⟨-, hheld | hfresh⟩
  · rw [(tally_eq_zero_iff_of_emptiedLast hlast).2 hquiet] at hheld
    exact absurd hheld (Nat.lt_irrefl 0)
  · have := hfresh since later hlast fired hmem
    omega

namespace Tracker

/-- While nobody tells the timer to end, an overdue filter is not tracked and not counted in the
size, after any run and also whenever a call is made in it, by a request or by the listener. The
clock may move by sleeps and jumps of any kind; only while the first tick is awaited, because the
timer first ran at a fraction of a millisecond, may an overdue filter still be there. If all jumps
are of whole milliseconds that is never so. -/
theorem untracked_run_of_overdue (listener : Listener) (options : CleanupOptions)
    (requests : List Request)
    (goesOn : ∀ request ∈ requests, request ≠ .stop ∧ request ≠ .shutdown) :
    let start := (create listener options).1
    let history := start.history requests
    let last := (start.run requests).1
    let origin := firstRun requests
    (∀ f, Overdue options f history last.clock → ¬ AwaitsFirstTick origin history last.clock →
        last.ledger.find? f = none ∧
          last.size = {g | g ≠ f ∧ (last.ledger.find? g).isSome}.ncard) ∧
      (∀ before now turn g told after, history = before ++ .call now turn g told :: after →
        ∀ f, Overdue options f before now → ¬ AwaitsFirstTick origin before now →
          (Ledger.ofHistory options.threshold before).find? f = none) ∧
      ((∀ span, .jump span ∈ requests → span % Time.perMillisecond = 0) →
        ∀ past now, ¬ AwaitsFirstTick origin past now) := by
  intro start history last origin
  have haccounts : Accounts start.keeper last.keeper _ history := accounts_run start requests
  have hledger : last.ledger = Ledger.ofHistory options.threshold history := haccounts.ledger
  obtain ⟨hlively, hcalls⟩ := lively_run
    (.inl ⟨⟨rfl, rfl, rfl⟩, rfl⟩ : start.keeper.Lively options.interval origin []) goesOn fun _ => rfl
  refine ⟨fun f hoverdue hpast => ?_, fun before now turn g told after hcut f hoverdue hpast => ?_,
    fun whole past now hawaits => hawaits.fraction (whole_firstRun whole)⟩
  · have hswept := hlively.sweptLately.elim id fun hbefore => hbefore.sweptLately hpast _
    have hgone := find?_of_overdue haccounts.sorted hoverdue hswept
    rw [← hledger] at hgone
    refine ⟨hgone, ?_⟩
    rw [size, Ledger.size_eq_ncard (hledger ▸ Ledger.sound_ofHistory ..)]
    congr 1
    ext g
    refine ⟨fun htracked => ⟨?_, htracked⟩, And.right⟩
    rintro rfl
    rw [Set.mem_ofPred_eq, hgone] at htracked
    exact nomatch htracked
  · have hsorted : InOrder (before ++ .call now turn g told :: after) := hcut ▸ haccounts.sorted
    have hswept := (hcalls before now turn g told after hcut).elim id
      fun hbefore => hbefore.sweptLately hpast _
    exact find?_of_overdue (List.pairwise_append.1 hsorted).1 hoverdue hswept

/-- A jump to two milliseconds and a half, where the first tick is yet to come, and another past it. -/
theorem untracked_after_first_tick :
    let options : CleanupOptions := ⟨Time.perMillisecond, 0⟩
    let requests : List Request := [.command (.subscribe "a"), .command (.unsubscribe "a"),
      .jump 2500000, .jump 1000000]
    let start := (create .silent options).1
    let last := (start.run requests).1
    (∀ request ∈ requests, request ≠ .stop ∧ request ≠ .shutdown) ∧
      Overdue options "a" (start.history requests) last.clock ∧
      ¬ AwaitsFirstTick (firstRun requests) (start.history requests) last.clock ∧
      last.ledger.find? "a" = none := by
  intro options requests start last
  have goesOn : ∀ request ∈ requests, request ≠ .stop ∧ request ≠ .shutdown := by
    simp [requests]
  let idle := ((start.serve (.command (.subscribe "a"))).1.serve (.command (.unsubscribe "a"))).1
  let jumped := idle.jump 2500000
  have hlast : last = (jumped.1.jump 1000000).1 := rfl
  have hidle : idle.clock = 0 := rfl
  have hclock : last.clock = 3500000 := by
    rw [hlast, clock_jump, clock_jump, hidle]
  have hhistory : start.history requests = .call 0 .first "a" true :: .call 0 .last "a" true ::
      sweepsIn (jumped.2 ++ (jumped.1.jump 1000000).2) := by
    rw [sweepsIn_append, ← List.append_nil (sweepsIn (jumped.1.jump _).2)]
    rfl
  have hoverdue : Overdue options "a" (start.history requests) last.clock := by
    rw [hhistory, hclock]
    exact overdue_of_sweeps "a" _ (by decide)
  have hpast : ¬ AwaitsFirstTick (firstRun requests) (start.history requests) last.clock := by
    intro hawaits
    have hearly := hawaits.early
    rw [hclock] at hearly
    exact absurd hearly (by decide)
  exact ⟨goesOn, hoverdue, hpast,
    ((untracked_run_of_overdue .silent options requests goesOn).1 "a" hoverdue hpast).1⟩

/-- While the first tick is awaited an overdue filter may still be tracked. -/
theorem tracked_before_first_tick :
    let options : CleanupOptions := ⟨Time.perMillisecond, 0⟩
    let requests : List Request := [.command (.subscribe "a"), .command (.unsubscribe "a"),
      .jump 2500000]
    let start := (create .silent options).1
    let last := (start.run requests).1
    (∀ request ∈ requests, request ≠ .stop ∧ request ≠ .shutdown) ∧
      Overdue options "a" (start.history requests) last.clock ∧
      last.ledger.find? "a" = some ⟨"a", 0, some 0⟩ ∧ last.size = 1 := by
  intro options requests start last
  let idle := ((start.serve (.command (.subscribe "a"))).1.serve (.command (.unsubscribe "a"))).1
  have hlast : last = (idle.jump 2500000).1 := rfl
  have hidle : idle.clock = 0 := rfl
  have hclock : last.clock = 2500000 := by
    rw [hlast, clock_jump, hidle]
  have hhistory : start.history requests =
      .call 0 .first "a" true :: .call 0 .last "a" true :: sweepsIn (idle.jump 2500000).2 := by
    rw [← List.append_nil (sweepsIn (idle.jump _).2)]
    rfl
  -- The tick at three milliseconds has not come.
  have hledger : last.ledger = idle.ledger := by
    let moved : Keeper := { idle.keeper with clock := idle.clock + 2500000 }
    have hsilent : moved.timer.line.isSilent = true := rfl
    have hmoved : moved.clock = 2500000 := by
      show idle.clock + 2500000 = 2500000
      rw [hidle]
    show (moved.attend moved.clock).1.ledger = idle.ledger
    rw [Keeper.attend_eq, if_pos hsilent, Keeper.fire, hmoved, Timer.fireDue, if_neg (by decide)]
    rfl
  refine ⟨by simp [requests], ?_, ?_, ?_⟩
  · rw [hhistory, hclock]
    exact overdue_of_sweeps "a" _ (by decide)
  · rw [hledger]
    rfl
  · rw [size, hledger]
    rfl

end Tracker

end Audience
