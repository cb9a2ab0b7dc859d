import Audience.Proofs.Cadence
import Audience.Proofs.Interchange

/-!
# Catching up after a jump

A timer that gets to work fires what is due and then what has come due by that,
the clock standing still all the while. How often it fires is settled by how late
it is (`Timer.backlog`): a tick that is late puts off the next by a period from
now, so it is the only one; one that is not does so by a period from its deadline,
so there may be as many more as there are periods in the delay, which is no longer
than the slack (`Timer.backlog_nextDeadline`, `Timer.backlog_le`).

No deadline is ever further off than a period (`Keeper.Reachable.soon`), whatever
was done to the keeper before. So `Keeper.catches_up`: however far the clock
jumps, the timer fires six times at most and then waits for a deadline ahead, but
not further ahead than a period.
-/

namespace Audience

/-- At a whole millisecond the clock's grain makes no difference to what has come up. -/
theorem Time.ceilMs_le_iff {now : Nat} (grain : now % perMillisecond = 0) (t : Nat) :
    ceilMs t ≤ now ↔ t ≤ now :=
  ⟨(le_ceilMs t).trans, fun h => (ceilMs_mono h).trans_eq (ceilMs_eq_self grain)⟩

/-- The deadline that ticks leave is at most a period after whatever they come no later than. -/
theorem Ticks.Follow.deadline_le {period fired bound : Nat} {ticks : Ticks}
    (h : ticks.Follow period fired) (hfired : fired ≤ bound)
    (hticks : ∀ event ∈ sweepsIn ticks.notes, event.instant ≤ bound) :
    ticks.deadline ≤ bound + period := by
  obtain ⟨last, hlast, hle⟩ := h
  have hlast : last ≤ bound := hlast.elim (·.trans_le hfired) (hticks (.sweep last))
  exact hle.trans (Nat.add_le_add_right hlast _)

namespace Timer

variable {interval threshold now deadline : Nat} {l : Ledger}

/-! ## How many ticks are due at once -/

theorem periodOf_pos (interval : Nat) : 0 < periodOf interval :=
  Nat.lt_of_lt_of_le (by decide) (perMillisecond_le_periodOf interval)

/-- How many ticks come at once where the clock stands, from the one of a deadline on. -/
def backlog (interval now deadline : Nat) : Nat :=
  if now < deadline then 0
  else if deadline + slack < now then 1
  else (now - deadline) / periodOf interval + 1

theorem backlog_of_early (h : now < deadline) : backlog interval now deadline = 0 := if_pos h

theorem backlog_of_late (h : deadline + slack < now) : backlog interval now deadline = 1 := by
  rw [backlog, if_neg (by omega), if_pos h]

theorem backlog_of_timely (due : deadline ≤ now) (timely : now ≤ deadline + slack) :
    backlog interval now deadline = (now - deadline) / periodOf interval + 1 := by
  rw [backlog, if_neg (Nat.not_lt.2 due), if_neg (Nat.not_lt.2 timely)]

/-- What comes at once is the tick that is due and what comes at once after it. -/
theorem backlog_nextDeadline (due : deadline ≤ now) :
    backlog interval now deadline =
      backlog interval now (nextDeadline interval now deadline) + 1 := by
  have hperiod := periodOf_pos interval
  have hwait := Time.longestWait_pos
  by_cases hlate : deadline + slack < now
  · have hnext : now < nextDeadline interval now deadline := by
      rw [nextDeadline, followingDeadline, if_neg (Nat.not_le.2 hlate)]
      omega
    rw [backlog_of_late hlate, backlog_of_early hnext]
  · have htimely : now ≤ deadline + slack := Nat.not_lt.1 hlate
    have hfollowing : nextDeadline interval now deadline =
        min (deadline + periodOf interval) (now + Time.longestWait) := by
      rw [nextDeadline, followingDeadline, if_pos htimely]
    rw [backlog_of_timely due htimely, hfollowing]
    rcases Nat.lt_or_ge now (deadline + periodOf interval) with hahead | hdue
    · rw [backlog_of_early (by omega), Nat.div_eq_of_lt (by omega)]
    · rw [Nat.min_eq_left (by omega), backlog_of_timely hdue (by omega), ← Nat.sub_sub,
        ← Nat.div_eq_sub_div hperiod (by omega)]

theorem backlog_le (interval now deadline : Nat) :
    backlog interval now deadline ≤ 1 + slack / periodOf interval := by
  unfold backlog
  split
  · exact Nat.zero_le _
  · next hdue =>
    split
    · exact Nat.le_add_right _ _
    · next htimely =>
      have hdelay : now - deadline ≤ slack := by omega
      have := Nat.div_le_div_right (c := periodOf interval) hdelay
      omega

theorem slack_div_periodOf_le (interval : Nat) : slack / periodOf interval ≤ 5 :=
  Nat.div_le_div_left (perMillisecond_le_periodOf interval) (by decide)

/-! ## What fires at once -/

/-- At a whole millisecond what is due fires, each tick at that moment. -/
theorem beatsIn_fireDue (grain : now % Time.perMillisecond = 0) :
    beatsIn (fireDue interval threshold now deadline l).notes =
      List.replicate (backlog interval now deadline) now := by
  fun_induction fireDue interval threshold now deadline l with
  | case1 deadline l due left note hswept rest ih =>
    rw [Time.ceilMs_le_iff grain] at due
    rw [beatsIn_cons_of_sweepNoted hswept, ih, backlog_nextDeadline due, List.replicate_succ]
  | case2 deadline l early =>
    rw [Time.ceilMs_le_iff grain] at early
    rw [backlog_of_early (Nat.not_le.1 early)]
    rfl

/-- Afterwards the deadline is ahead. -/
theorem lt_deadline_of_fireDue (grain : now % Time.perMillisecond = 0) :
    now < (fireDue interval threshold now deadline l).deadline := by
  rw [← Nat.not_le, ← Time.ceilMs_le_iff grain, Nat.not_le]
  exact lt_deadline_fireDue

/-- And no further ahead than a period, if it was not before. -/
theorem deadline_fireDue_le (h : deadline ≤ now + periodOf interval) :
    (fireDue interval threshold now deadline l).deadline ≤ now + periodOf interval :=
  (follow_fireDue now h).deadline_le (Nat.le_refl _)
    fun event hmem => (instant_of_mem_fireDue event hmem).le

theorem deadline_fireUntil_le {wake : Nat} (hwake : now ≤ wake)
    (h : deadline ≤ now + periodOf interval) :
    (fireUntil interval threshold wake deadline l).deadline ≤ wake + periodOf interval :=
  (follow_fireUntil now h).deadline_le hwake
    fun event hmem => (sorted_fireUntil.1 event hmem).2.le

/-- The deadline for which a timer fires next if it gets to run at `now`. The first is for then. -/
def dueAt (t : Timer) (now : Nat) : Nat :=
  match t.phase with
  | .waiting deadline => deadline
  | .unstarted | .ended => now

end Timer

/-! ## Deadlines of a keeper -/

namespace Keeper

variable {k : Keeper}

/-- The keepers that can be reached. The clock may also move on without the timer getting to run,
and the timer get to run without the clock moving on. -/
inductive Reachable : Keeper → Prop where
  | create (interval threshold : Nat) : Reachable (create interval threshold).1
  | subscribe {k : Keeper} (filter : String) : Reachable k → Reachable (k.subscribe filter).1
  | unsubscribe {k : Keeper} (filter : String) : Reachable k → Reachable (k.unsubscribe filter).1
  | sweep {k : Keeper} (now : Int) (threshold : Nat) :
    Reachable k → Reachable (k.sweepAsOf now threshold).1
  | wait {k : Keeper} (span : Nat) : Reachable k → Reachable (k.movedTo (k.clock + span))
  | run {k : Keeper} : Reachable k → Reachable k.run.1
  | sleep {k : Keeper} (span : Nat) : Reachable k → Reachable (k.sleep span).1
  | stop {k : Keeper} : Reachable k → Reachable k.stop
  | release {k : Keeper} : Reachable k → Reachable k.release

/-- Whether the timer waits for a deadline that is not further off than a period. -/
def Soon (k : Keeper) : Prop :=
  ∀ deadline, k.timer.phase = .waiting deadline → deadline ≤ k.clock + k.timer.period

theorem soon_attend {deadline : Nat} (h : deadline ≤ k.clock + k.timer.period) :
    (k.attend deadline).1.Soon := by
  rw [attend_eq]
  split
  · intro next hnext
    obtain rfl := Phase.waiting.inj hnext
    exact Timer.deadline_fireDue_le h
  · intro next hnext
    cases hnext

theorem Soon.run (h : k.Soon) : k.run.1.Soon := by
  unfold Keeper.run
  split
  · exact h
  · exact soon_attend (Nat.le_add_right _ _)
  · next deadline hphase => exact soon_attend (h deadline hphase)

theorem Soon.movedTo (h : k.Soon) {clock : Nat} (hclock : k.clock ≤ clock) :
    (k.movedTo clock).Soon :=
  fun deadline hphase => (h deadline hphase).trans (Nat.add_le_add_right hclock _)

/-- Up to the moment of waking the deadline moves on with the clock. -/
theorem Soon.tickUntil (h : k.Soon) {wake : Nat} (hwake : k.clock ≤ wake) :
    ((k.tickUntil wake).1.movedTo wake).Soon := by
  unfold Keeper.tickUntil
  split
  · next deadline hphase =>
    intro next hnext
    obtain rfl := Phase.waiting.inj hnext
    exact Timer.deadline_fireUntil_le hwake (h deadline hphase)
  · exact h.movedTo hwake

theorem Soon.sleep (h : k.Soon) (span : Nat) : (k.sleep span).1.Soon := by
  rcases eq_or_ne span 0 with rfl | hspan
  · exact h
  · rw [sleep_eq hspan]
    refine h.run.tickUntil ?_
    rw [clock_run]
    exact (Nat.le_add_right _ _).trans (Time.le_ceilMs _)

theorem Reachable.soon (h : k.Reachable) : k.Soon := by
  induction h with
  | create => exact fun _ hphase => nomatch hphase
  | subscribe _ _ ih | unsubscribe _ _ ih | sweep _ _ _ ih | stop _ ih | release _ ih => exact ih
  | wait _ _ ih => exact ih.movedTo (Nat.le_add_right _ _)
  | run _ ih => exact ih.run
  | sleep span _ ih => exact ih.sleep span

theorem Soon.dueAt_le (h : k.Soon) {now : Nat} (hnow : k.clock ≤ now) :
    k.timer.dueAt now ≤ now + k.timer.period := by
  unfold Timer.dueAt
  split
  · next deadline hphase => exact h.movedTo hnow deadline hphase
  · exact Nat.le_add_right _ _
  · exact Nat.le_add_right _ _

/-! ## A jump -/

/-- A timer that was not told to end fires what is due when it gets to run. -/
theorem run_of_not_stopped (going : ¬ k.Stopped) :
    k.run.1 = (k.fire (k.timer.dueAt k.clock)).1 ∧
      beatsIn k.run.2 = beatsIn (k.fire (k.timer.dueAt k.clock)).2 := by
  obtain ⟨hphase, hsilent⟩ := not_or.1 going
  have hattend (deadline : Nat) : k.attend deadline = k.fire deadline := by
    rw [attend_eq, if_pos (by simpa using hsilent)]
  cases h : k.timer.phase with
  | ended => exact absurd h hphase
  | unstarted =>
    simp only [Keeper.run, Timer.dueAt, h, hattend]
    exact ⟨trivial, rfl⟩
  | waiting deadline =>
    simp only [Keeper.run, Timer.dueAt, h, hattend]
    exact ⟨trivial, trivial⟩

/-- However far the clock jumps, a timer that was not told to end fires at most six times, at the
moment that the clock has jumped to: not at all if nothing is due there, once if what is due is more
than five milliseconds late, and else once for every period that it is late and once more. Then it
waits for a deadline that is ahead, but not further than a period. -/
theorem catches_up (reachable : k.Reachable) (going : ¬ k.Stopped) {span : Nat}
    (grain : (k.clock + span) % Time.perMillisecond = 0) :
    let now := k.clock + span
    let due := k.timer.dueAt now
    let period := Timer.periodOf k.timer.interval
    let after := k.jump span
    ∃ n next, beatsIn after.2 = List.replicate n now ∧
      (now < due → n = 0) ∧
      (due + 5 * Time.perMillisecond < now → n = 1) ∧
      (due ≤ now → now ≤ due + 5 * Time.perMillisecond → n = (now - due) / period + 1) ∧
      n ≤ 1 + 5 * Time.perMillisecond / period ∧ n ≤ 6 ∧
      after.1.clock = now ∧ after.1.timer.phase = .waiting next ∧
      now < next ∧ next ≤ now + period := by
  intro now due period after
  let ticks := Timer.fireDue k.timer.interval k.timer.threshold now due k.ledger
  obtain ⟨hkeeper, hbeats⟩ : after.1 = (k.movedTo now).afterTicks ticks ∧
      beatsIn after.2 = beatsIn ticks.notes :=
    run_of_not_stopped (k := k.movedTo now) going
  have hsoon : due ≤ now + period := reachable.soon.dueAt_le (Nat.le_add_right _ _)
  have hfew : Timer.backlog k.timer.interval now due ≤ 6 := by
    have := Timer.backlog_le k.timer.interval now due
    have := Timer.slack_div_periodOf_le k.timer.interval
    omega
  refine ⟨Timer.backlog k.timer.interval now due, ticks.deadline,
    hbeats.trans (Timer.beatsIn_fireDue grain), Timer.backlog_of_early, Timer.backlog_of_late,
    Timer.backlog_of_timely, Timer.backlog_le .., hfew, ?_, ?_,
    Timer.lt_deadline_of_fireDue grain, Timer.deadline_fireDue_le hsoon⟩
  · rw [hkeeper]
    rfl
  · rw [hkeeper]
    rfl

end Keeper

/-! ## Keepers of trackers -/

theorem Tracker.Reachable.keeper {t : Tracker} (h : t.Reachable) : t.keeper.Reachable := by
  have hchange (turn : Turn) (filter : String) {t : Tracker} (ht : t.keeper.Reachable) :
      (t.change nestingLimit turn filter).tracker.keeper.Reachable :=
    change_preserves (·.keeper.Reachable)
      (fun turn filter _ ht => by
        cases turn with
        | first => exact .subscribe filter ht
        | last => exact .unsubscribe filter ht)
      nestingLimit turn filter ht
  induction h with
  | create listener options => exact .create options.interval options.threshold
  | @serve t request _ ih =>
    match request with
    | .command (.subscribe filter) => exact hchange .first filter ih
    | .command (.unsubscribe filter) => exact hchange .last filter ih
    | .command (.query _) | .command .size => exact ih
    | .command .sweep => exact .sweep _ _ ih
    | .command (.sleep span) => exact .sleep span ih
    | .jump span => exact .run (.wait span ih)
    | .stop => exact .stop ih
    | .shutdown => exact .run (.stop ih)
  | wait span _ ih => exact .wait span ih

namespace Keeper

/-- A timer of no interval at all: a tick that is five milliseconds late and the five after it, and
one that is later than that. -/
theorem catches_up_six_times :
    let k := ((Tracker.create .silent ⟨0, 0⟩).1.serve (.jump 0)).1.keeper
    k.Reachable ∧ ¬ k.Stopped ∧ (k.clock + 6000000) % Time.perMillisecond = 0 ∧
      beatsIn (k.jump 6000000).2 = List.replicate 6 6000000 ∧
      beatsIn (k.jump 7000000).2 = [7000000] := by
  intro k
  have hreachable : k.Reachable := (Tracker.Reachable.serve _ (.create .silent ⟨0, 0⟩)).keeper
  -- The first tick comes at once, and the next is due a millisecond later.
  have hfired : (Timer.fireDue 0 0 0 0 {}).deadline = 1000000 := by
    rw [Timer.fireDue, if_pos (by decide)]
    show (Timer.fireDue 0 0 0 1000000 {}).deadline = 1000000
    rw [Timer.fireDue, if_neg (by decide)]
  have hk : k = ((create 0 0).1.fire 0).1 :=
    (run_of_not_stopped (k := (create 0 0).1) (by unfold Stopped; decide)).1
  have hphase : k.timer.phase = .waiting 1000000 := by
    rw [hk, ← hfired]
    rfl
  have hline : k.timer.line = {} := congrArg (·.timer.line) hk
  have hclock : k.clock = 0 := congrArg (·.clock) hk
  have hinterval : k.timer.interval = 0 := congrArg (·.timer.interval) hk
  have hdue (now : Nat) : k.timer.dueAt now = 1000000 := by
    rw [Timer.dueAt, hphase]
  have hgoing : ¬ k.Stopped := by
    rw [Stopped, hphase, hline]
    decide
  have hgrain : (k.clock + 6000000) % Time.perMillisecond = 0 := by
    rw [hclock]
    decide
  have hgrain' : (k.clock + 7000000) % Time.perMillisecond = 0 := by
    rw [hclock]
    decide
  obtain ⟨six, -, hsix, -, -, htimely, -⟩ := catches_up hreachable hgoing hgrain
  obtain ⟨one, -, hone, -, hlate, -⟩ := catches_up hreachable hgoing hgrain'
  rw [hdue, hclock, hinterval] at htimely
  rw [hdue, hclock] at hlate
  refine ⟨hreachable, hgoing, hgrain, ?_, ?_⟩
  · rw [hsix, htimely (by decide) (by decide), hclock]
    decide
  · rw [hone, hlate (by decide), hclock]
    decide

end Keeper

end Audience
