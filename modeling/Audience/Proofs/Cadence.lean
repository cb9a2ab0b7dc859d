import Audience.Proofs.Promptness
import Audience.Proofs.Stopping

/-!
# The cadence of ticks

A timer that first ran at some origin ticks at the origin and every so often
after it, each time rounded up to the clock's grain: `Timer.beat` is the time
of one of its ticks. While the clock moves by sleeps alone no tick is late, so
every deadline is a period after the one before, and what has been rounded up
for one tick is not carried over to the next (`Timer.AtBeat.next`). No two
ticks are further apart than the longest wait, so a timer of a longer interval
has the beat of that (`Timer.paceOf`).

* `Timer.beats_fireUntil`: the ticks before a moment of waking are beats.
* `Timer.fireUntil_of_fireDue`, `Timer.fireUntil_of_le`: ticks fire alike
  whether the clock stops on the way or not.
* `Keeper.sleep_add_iff`: to sleep for two spans is to sleep for their sum, as
  long as that is not past the longest wait.
* `Tracker.beats_run`: at the end of a run the beats before the clock have been
  swept at, each once, and nothing else has.

Were it not for the longest wait, the beat would be that of the period, and all
sleeps could be split (`Tracker.beat_lost_past_longest_wait`).
-/

namespace Audience

/-! ## Beats -/

/-- The instant of a scheduled sweep, if the note tells of one. -/
def Note.beat? : Note → Option Nat
  | .swept sweep => if sweep.scheduled then some sweep.instant.toNat else none
  | _ => none

/-- The instants of the scheduled sweeps that notes tell of, in order. -/
def beatsIn (notes : List Note) : List Nat := notes.filterMap (·.beat?)

theorem beatsIn_append (notes more : List Note) :
    beatsIn (notes ++ more) = beatsIn notes ++ beatsIn more :=
  List.filterMap_append

theorem beatsIn_of_unscheduled {notes : List Note} (h : ∀ note ∈ notes, note.isScheduled = false) :
    beatsIn notes = [] := by
  refine List.filterMap_eq_nil_iff.2 fun note hmem => ?_
  have hnote := h note hmem
  cases note with
  | swept sweep =>
    rw [Note.isScheduled] at hnote
    rw [Note.beat?, hnote, if_neg Bool.false_ne_true]
  | _ => rfl

theorem beatsIn_cons_of_sweepNoted {now threshold : Nat} {l left : Ledger} {note : Note}
    (h : l.sweepNoted true now threshold = (left, note)) (notes : List Note) :
    beatsIn (note :: notes) = now :: beatsIn notes := by
  obtain ⟨-, rfl⟩ := Prod.mk.inj h
  simp [beatsIn, Note.beat?]

namespace Time

theorem ceilMs_lt_ceilMs {s t : Nat} (h : s + perMillisecond ≤ t) : ceilMs s < ceilMs t :=
  (ceilMs_lt s).trans_le (h.trans (le_ceilMs t))

theorem ceilMs_add {span : Nat} (h : span % perMillisecond = 0) (t : Nat) :
    ceilMs (t + span) = ceilMs t + span := by
  unfold ceilMs perMillisecond at *
  split <;> split <;> omega

theorem longestWait_mod : longestWait % perMillisecond = 0 := by decide

theorem min_longestWait_mod {span : Nat} (h : span % perMillisecond = 0) :
    min span longestWait % perMillisecond = 0 := by
  rcases min_choice span longestWait with hmin | hmin
  · rw [hmin, h]
  · rw [hmin, longestWait_mod]

end Time

namespace Timer

variable {interval origin deadline : Nat}

/-- How far apart the ticks of a timer are while none is late: its period, or the longest wait if
that is shorter. -/
def paceOf (interval : Nat) : Nat := min (periodOf interval) Time.longestWait

theorem perMillisecond_le_periodOf (interval : Nat) : Time.perMillisecond ≤ periodOf interval :=
  Nat.le_max_right interval minPeriod

theorem perMillisecond_le_paceOf (interval : Nat) : Time.perMillisecond ≤ paceOf interval :=
  Nat.le_min.2 ⟨perMillisecond_le_periodOf interval, by decide⟩

/-- When a timer that first ran at `origin` ticks for the `k`-th time, counted from zero. -/
def beat (interval origin k : Nat) : Nat := Time.ceilMs (origin + k * paceOf interval)

theorem le_beat (interval origin k : Nat) : origin ≤ beat interval origin k :=
  (Nat.le_add_right _ _).trans (Time.le_ceilMs _)

/-- The times of the first `n` ticks. -/
def beats (interval origin n : Nat) : List Nat := (List.range n).map (beat interval origin)

theorem beats_succ (interval origin n : Nat) :
    beats interval origin (n + 1) = beats interval origin n ++ [beat interval origin n] := by
  simp [beats, List.range_succ]

theorem beat_lt_beat {i j : Nat} (h : i < j) : beat interval origin i < beat interval origin j := by
  have hpace := perMillisecond_le_paceOf interval
  have hstep : (i + 1) * paceOf interval ≤ j * paceOf interval := Nat.mul_le_mul_right _ h
  rw [Nat.succ_mul] at hstep
  exact Time.ceilMs_lt_ceilMs (by omega)

theorem beat_le_beat {i j : Nat} (h : i ≤ j) : beat interval origin i ≤ beat interval origin j :=
  Time.ceilMs_mono (Nat.add_le_add_left (Nat.mul_le_mul_right _ h) origin)

/-- A moment that some beats lie before and the next does not lies after these alone. -/
theorem lt_iff_beat_lt {n now : Nat} (before : ∀ i < n, beat interval origin i < now)
    (next : now ≤ beat interval origin n) (k : Nat) : k < n ↔ beat interval origin k < now := by
  refine ⟨before k, fun hlt => ?_⟩
  by_contra hle
  have hearly : beat interval origin n ≤ beat interval origin k :=
    beat_le_beat (Nat.le_of_not_lt hle)
  omega

/-! ## Deadlines -/

/-- A tick that fires as soon as the clock's grain allows is not late. -/
theorem followingDeadline_ceilMs (interval deadline : Nat) :
    followingDeadline interval (Time.ceilMs deadline) deadline = deadline + periodOf interval := by
  have hgrain := Time.ceilMs_lt deadline
  refine if_pos ?_
  unfold slack
  omega

/-- Whether a deadline is that of the `k`-th tick, to the instant if the period is not past the
longest wait and to the clock's grain if it is. -/
def AtBeat (interval origin k deadline : Nat) : Prop :=
  Time.ceilMs deadline = beat interval origin k ∧
    (periodOf interval ≤ Time.longestWait → deadline = origin + k * paceOf interval)

theorem AtBeat.zero (interval origin : Nat) : AtBeat interval origin 0 origin := by
  simp [AtBeat, beat]

/-- Where a tick came at its beat the next deadline is that of the next beat. -/
theorem AtBeat.next {k : Nat} (h : AtBeat interval origin k deadline) :
    AtBeat interval origin (k + 1) (nextDeadline interval (Time.ceilMs deadline) deadline) := by
  obtain ⟨hceil, hexact⟩ := h
  have hle := Time.le_ceilMs deadline
  rw [nextDeadline, followingDeadline_ceilMs]
  rcases Nat.lt_or_ge Time.longestWait (periodOf interval) with hlong | hshort
  · -- The longest wait is of whole milliseconds, so rounding up before it or after it is the same.
    have hpace : paceOf interval = Time.longestWait := Nat.min_eq_right hlong.le
    have hgrain := Time.longestWait_mod
    have hbeat : beat interval origin (k + 1) = Time.ceilMs deadline + Time.longestWait := by
      rw [hceil, beat, beat, hpace, Nat.succ_mul, ← Nat.add_assoc, Time.ceilMs_add hgrain]
    have hcap : Time.ceilMs (Time.ceilMs deadline + Time.longestWait) =
        Time.ceilMs deadline + Time.longestWait := by
      rw [Time.ceilMs_add hgrain, Time.ceilMs_eq_self (Time.ceilMs_mod _)]
    refine ⟨Nat.le_antisymm ?_ ?_, fun hshort => absurd hshort (Nat.not_le_of_lt hlong)⟩
    · exact (Time.ceilMs_mono (Nat.min_le_right _ _)).trans_eq (hcap.trans hbeat.symm)
    · refine (hbeat.trans (Time.ceilMs_add hgrain deadline).symm).trans_le (Time.ceilMs_mono ?_)
      exact Nat.le_min.2 ⟨Nat.add_le_add_left hlong.le _, Nat.add_le_add_right hle _⟩
  · have hpace : paceOf interval = periodOf interval := Nat.min_eq_left hshort
    have hnext : min (deadline + periodOf interval) (Time.ceilMs deadline + Time.longestWait) =
        origin + (k + 1) * paceOf interval := by
      rw [Nat.min_eq_left (by omega), hexact hshort, hpace, Nat.succ_mul, Nat.add_assoc]
    exact ⟨congrArg Time.ceilMs hnext, fun _ => hnext⟩

/-- The next tick does not come at the same time, whatever the period. -/
theorem ceilMs_lt_nextDeadline (interval deadline : Nat) :
    Time.ceilMs deadline <
      Time.ceilMs (nextDeadline interval (Time.ceilMs deadline) deadline) := by
  have hperiod := perMillisecond_le_periodOf interval
  have hfollowing : Time.ceilMs deadline < Time.ceilMs (deadline + periodOf interval) :=
    Time.ceilMs_lt_ceilMs (by omega)
  have hwait := Time.longestWait_pos
  rw [nextDeadline, followingDeadline_ceilMs]
  rcases Nat.le_total (deadline + periodOf interval) (Time.ceilMs deadline + Time.longestWait)
    with hle | hle
  · rwa [Nat.min_eq_left hle]
  · rw [Nat.min_eq_right hle]
    have := Time.le_ceilMs (Time.ceilMs deadline + Time.longestWait)
    omega

/-- From a beat on, the ticks before a moment of waking are the beats before it, and the deadline
that is left is that of the first beat that is not. -/
theorem beats_fireUntil (threshold wake : Nat) (l : Ledger) (k : Nat)
    (h : AtBeat interval origin k deadline) :
    ∃ n, AtBeat interval origin n (fireUntil interval threshold wake deadline l).deadline ∧
      beats interval origin k ++ beatsIn (fireUntil interval threshold wake deadline l).notes =
        beats interval origin n ∧
      (∀ i < n, k ≤ i → beat interval origin i < wake) ∧ wake ≤ beat interval origin n := by
  fun_induction fireUntil interval threshold wake deadline l generalizing k with
  | case1 deadline l early now left note hswept rest ih =>
    have hnow : now = beat interval origin k := h.1
    obtain ⟨n, hdeadline, hfired, hbefore, hle⟩ := ih (k + 1) h.next
    refine ⟨n, hdeadline, ?_, fun i hi hk => ?_, hle⟩
    · rw [beatsIn_cons_of_sweepNoted hswept, ← hfired, beats_succ, ← hnow, List.append_assoc]
      rfl
    · rcases Nat.eq_or_lt_of_le hk with rfl | hlater
      · rw [← hnow]
        exact early
      · exact hbefore i hi hlater
  | case2 deadline l late =>
    refine ⟨k, h, List.append_nil _, fun i hi hk => absurd hi (Nat.not_lt_of_le hk), ?_⟩
    rw [← h.1]
    exact Nat.le_of_not_lt late

end Timer

/-! ## Ticks in two stretches -/

/-- Ticks that go on from where others stopped. -/
def Ticks.andThen (first rest : Ticks) : Ticks := { rest with notes := first.notes ++ rest.notes }

namespace Timer

variable {interval threshold deadline wake : Nat} {l : Ledger}

/-- What fires before a moment fires before any earlier one first. -/
theorem fireUntil_of_le {later : Nat} (h : wake ≤ later) :
    let first := fireUntil interval threshold wake deadline l
    fireUntil interval threshold later deadline l =
      first.andThen (fireUntil interval threshold later first.deadline first.ledger) := by
  fun_induction fireUntil interval threshold wake deadline l with
  | case1 deadline l early now left note hswept rest ih =>
    rw [fireUntil, if_pos (early.trans_le h)]
    simp only [now] at hswept ih
    simp only [hswept, ih]
    rfl
  | case2 => rfl

/-- A tick that is due just where the clock stands fires as it would with the clock moving on. -/
theorem fireUntil_of_fireDue {now : Nat} (inTime : now ≤ Time.ceilMs deadline)
    (early : now < wake) :
    let due := fireDue interval threshold now deadline l
    fireUntil interval threshold wake deadline l =
      due.andThen (fireUntil interval threshold wake due.deadline due.ledger) := by
  by_cases hdue : Time.ceilMs deadline ≤ now
  · obtain rfl : now = Time.ceilMs deadline := Nat.le_antisymm inTime hdue
    have hnext := Nat.not_le_of_lt (ceilMs_lt_nextDeadline interval deadline)
    rw [fireUntil, if_pos early, fireDue, if_pos hdue]
    simp only [Ledger.sweepNoted]
    rw [fireDue, if_neg hnext]
    rfl
  · rw [fireDue, if_neg hdue]
    rfl

end Timer

/-! ## Sleeping in two parts -/

namespace Keeper

variable {k : Keeper}

/-- Where the timer gets to work in time, with nobody signalling to it, what is due and what comes
up until the moment of waking are ticks in one. -/
theorem tickUntil_attend (silent : k.timer.line.isSilent = true) {deadline wake : Nat}
    (inTime : k.clock ≤ Time.ceilMs deadline) (early : k.clock < wake) :
    let ticks := Timer.fireUntil k.timer.interval k.timer.threshold wake deadline k.ledger
    ((k.attend deadline).1.tickUntil wake).1 = k.afterTicks ticks ∧
      (k.attend deadline).2 ++ ((k.attend deadline).1.tickUntil wake).2 = ticks.notes := by
  simp only
  rw [attend_eq, if_pos silent, Timer.fireUntil_of_fireDue inTime early]
  exact ⟨rfl, rfl⟩

/-- A timer that waits once it has run was not signalled to. -/
theorem silent_of_run {deadline : Nat} (h : k.run.1.timer.phase = .waiting deadline) :
    k.run.1.timer.line.isSilent = true := by
  have hattend (next : Nat) (h : (k.attend next).1.timer.phase = .waiting deadline) :
      (k.attend next).1.timer.line.isSilent = true := by
    rw [attend_eq] at h ⊢
    split at h
    · next hsilent =>
      rw [if_pos hsilent]
      exact hsilent
    · cases h
  unfold run at h ⊢
  split at h
  · next hphase => rw [hphase] at h; cases h
  · exact hattend _ h
  · exact hattend _ h

/-- A keeper whose clock was moved and nothing else. -/
def movedTo (clock : Nat) (k : Keeper) : Keeper := { k with clock }

/-- A keeper whose timer waits for a deadline lets the ticks before `wake` fire. -/
theorem tickUntil_of_waiting {deadline : Nat} (h : k.timer.phase = .waiting deadline) (wake : Nat) :
    let ticks := Timer.fireUntil k.timer.interval k.timer.threshold wake deadline k.ledger
    k.tickUntil wake = (k.afterTicks ticks, ticks.notes) := by
  simp only [tickUntil, h]

theorem run_of_ended (h : k.timer.phase = .ended) : k.run = (k, []) := by
  simp only [run, h]

/-- A timer that has run ticks the same until `later` if the clock stops before that and the timer
runs again. -/
theorem tickUntil_stop (started : k.timer.phase ≠ .unstarted)
    (silent : ∀ deadline, k.timer.phase = .waiting deadline → k.timer.line.isSilent = true)
    {wake later : Nat} (h : wake < later) :
    let first := k.tickUntil wake
    let again := (first.1.movedTo wake).run
    let rest := again.1.tickUntil later
    rest.1.movedTo later = (k.tickUntil later).1.movedTo later ∧
      first.2 ++ (again.2 ++ rest.2) = (k.tickUntil later).2 := by
  intro first again rest
  cases hphase : k.timer.phase with
  | unstarted => exact absurd hphase started
  | ended =>
    have hfirst : first = (k, []) := tickUntil_of_ended hphase wake
    have hagain : again = (k.movedTo wake, []) := by
      rw [show again = (first.1.movedTo wake).run from rfl, hfirst]
      exact run_of_ended hphase
    have hrest : rest = (k.movedTo wake, []) := by
      rw [show rest = again.1.tickUntil later from rfl, hagain]
      exact tickUntil_of_ended (k := k.movedTo wake) hphase later
    rw [hrest, hagain, hfirst, tickUntil_of_ended hphase later]
    exact ⟨rfl, rfl⟩
  | waiting deadline =>
    let early := Timer.fireUntil k.timer.interval k.timer.threshold wake deadline k.ledger
    have hfirst : first = (k.afterTicks early, early.notes) := tickUntil_of_waiting hphase wake
    have hagain : again = ((k.afterTicks early).movedTo wake).attend early.deadline := by
      rw [show again = (first.1.movedTo wake).run from rfl, hfirst]
      rfl
    have hwhole : Timer.fireUntil k.timer.interval k.timer.threshold later deadline k.ledger =
        early.andThen (Timer.fireUntil k.timer.interval k.timer.threshold later early.deadline
          early.ledger) :=
      Timer.fireUntil_of_le h.le
    have hinTime : wake ≤ Time.ceilMs early.deadline := Timer.le_deadline_fireUntil
    obtain ⟨hkeeper, hnotes⟩ := tickUntil_attend (k := (k.afterTicks early).movedTo wake)
      (silent deadline hphase) hinTime h
    rw [← hagain] at hkeeper hnotes
    rw [show rest = again.1.tickUntil later from rfl, hkeeper, hnotes, hfirst,
      tickUntil_of_waiting hphase later, hwhole]
    exact ⟨rfl, rfl⟩

/-- A sleep that is not of zero. -/
theorem sleep_eq {span : Nat} (hspan : span ≠ 0) (k : Keeper) :
    let wake := Time.ceilMs (k.clock + min span Time.longestWait)
    k.sleep span =
      ((k.run.1.tickUntil wake).1.movedTo wake, k.run.2 ++ (k.run.1.tickUntil wake).2) := by
  rw [sleep, if_neg hspan]
  rfl

/-- The moments of waking from a span and then from one of whole milliseconds, and from both in
one. -/
theorem wake_add {next : Nat} (h : next % Time.perMillisecond = 0) (now first : Nat) :
    Time.ceilMs (Time.ceilMs (now + first) + next) = Time.ceilMs (now + (first + next)) := by
  rw [Time.ceilMs_add h, Time.ceilMs_eq_self (Time.ceilMs_mod _), ← Nat.add_assoc,
    Time.ceilMs_add h]

/-- Two sleeps in a row are one if that is not past the longest wait: the timer ticks alike. -/
theorem sleep_sleep {a b : Nat} (ha : a ≠ 0) (hb : b ≠ 0) (grain : b % Time.perMillisecond = 0)
    (short : a + b ≤ Time.longestWait) (k : Keeper) :
    ((k.sleep a).1.sleep b).1 = (k.sleep (a + b)).1 ∧
      (k.sleep a).2 ++ ((k.sleep a).1.sleep b).2 = (k.sleep (a + b)).2 := by
  have hwake := wake_add grain k.clock a
  have hlater : Time.ceilMs (k.clock + a) < Time.ceilMs (k.clock + (a + b)) := by
    refine Time.ceilMs_lt_ceilMs ?_
    unfold Time.perMillisecond at *
    omega
  obtain ⟨hkeeper, hnotes⟩ :=
    tickUntil_stop (phase_run_ne_unstarted k) (fun _ => silent_of_run) hlater
  rw [sleep_eq ha, sleep_eq hb, sleep_eq (by omega : a + b ≠ 0), Nat.min_eq_left short,
    Nat.min_eq_left (by omega), Nat.min_eq_left (by omega)]
  simp only [movedTo] at hkeeper hnotes hwake ⊢
  rw [hwake, List.append_assoc, hnotes]
  exact ⟨hkeeper, rfl⟩

/-- Past the longest wait the clock goes further in two sleeps than in one. -/
theorem short_of_clock_sleep_sleep {a b : Nat} (ha : a ≠ 0) (hb : b ≠ 0)
    (grain : a % Time.perMillisecond = 0) (grain' : b % Time.perMillisecond = 0)
    (h : ((k.sleep a).1.sleep b).1.clock = (k.sleep (a + b)).1.clock) :
    a + b ≤ Time.longestWait := by
  have hsum : (a + b) % Time.perMillisecond = 0 := by rw [Nat.add_mod, grain, grain', Nat.zero_mod]
  have hwait := Time.longestWait_pos
  rw [clock_sleep hb, clock_sleep ha, clock_sleep (by omega : a + b ≠ 0),
    wake_add (Time.min_longestWait_mod grain'), ← Nat.add_assoc,
    Time.ceilMs_add (Time.min_longestWait_mod grain'),
    Time.ceilMs_add (Time.min_longestWait_mod grain),
    Time.ceilMs_add (Time.min_longestWait_mod hsum)] at h
  omega

/-- To sleep for two spans of whole milliseconds is to sleep for their sum, unless both are more
than no sleep and the sum is past the longest wait. -/
theorem sleep_add_iff {a b : Nat} (ha : a % Time.perMillisecond = 0)
    (hb : b % Time.perMillisecond = 0) (k : Keeper) :
    ((k.sleep a).1.sleep b).1 = (k.sleep (a + b)).1 ∧
        (k.sleep a).2 ++ ((k.sleep a).1.sleep b).2 = (k.sleep (a + b)).2 ↔
      a = 0 ∨ b = 0 ∨ a + b ≤ Time.longestWait := by
  rcases eq_or_ne a 0 with rfl | hane
  · simp [sleep]
  rcases eq_or_ne b 0 with rfl | hbne
  · simp [sleep]
  refine ⟨fun hsame => .inr (.inr ?_), fun hshort => ?_⟩
  · exact short_of_clock_sleep_sleep hane hbne ha hb (congrArg Keeper.clock hsame.1)
  · exact sleep_sleep hane hbne hb ((hshort.resolve_left hane).resolve_left hbne) k

/-! ## Keeping to the beat -/

/-- Whether the timer waits for a beat, and the beats before the clock have fired and no other
has. -/
structure OnBeat (interval origin : Nat) (fired : List Nat) (k : Keeper) : Prop where
  interval_eq : k.timer.interval = interval
  silent : k.timer.line.isSilent = true
  waits : ∃ deadline n, k.timer.phase = .waiting deadline ∧
    Timer.AtBeat interval origin n deadline ∧ fired = Timer.beats interval origin n ∧
    (∀ i < n, Timer.beat interval origin i < k.clock) ∧ k.clock ≤ Timer.beat interval origin n

/-- What is true of a keeper after sleeps that began at `origin`, in which these ticks fired. -/
def Steady (interval origin : Nat) (fired : List Nat) (k : Keeper) : Prop :=
  k.Fresh interval ∧ k.clock = origin ∧ fired = [] ∨ k.OnBeat interval origin fired

variable {interval origin : Nat} {fired : List Nat}

/-- What leaves the timer and the clock alone, and fires nothing, keeps the beat. -/
theorem Steady.of_same (h : k.Steady interval origin fired) {k' : Keeper} {notes : List Note}
    (timer : k'.timer = k.timer) (clock : k'.clock = k.clock)
    (quiet : ∀ note ∈ notes, note.isScheduled = false) :
    k'.Steady interval origin (fired ++ beatsIn notes) := by
  rw [beatsIn_of_unscheduled quiet, List.append_nil]
  rcases h with ⟨hfresh, hclock, hfired⟩ | hbeat
  · exact .inl ⟨⟨timer ▸ hfresh.1, timer ▸ hfresh.2, timer ▸ hfresh.3⟩, clock.trans hclock, hfired⟩
  · exact .inr ⟨timer ▸ hbeat.1, timer ▸ hbeat.2, by rw [timer, clock]; exact hbeat.3⟩

/-- A timer that gets to work in time for a beat, and then until a moment of waking, keeps to it. -/
theorem onBeat_tickUntil_attend (interval_eq : k.timer.interval = interval)
    (silent : k.timer.line.isSilent = true) {deadline n wake : Nat}
    (atBeat : Timer.AtBeat interval origin n deadline)
    (before : ∀ i < n, Timer.beat interval origin i < wake)
    (inTime : k.clock ≤ Timer.beat interval origin n) (early : k.clock < wake) :
    let started := k.attend deadline
    let ticked := started.1.tickUntil wake
    (ticked.1.movedTo wake).OnBeat interval origin
      (Timer.beats interval origin n ++ beatsIn (started.2 ++ ticked.2)) := by
  intro started ticked
  obtain ⟨hkeeper, hnotes⟩ := tickUntil_attend silent (inTime.trans_eq atBeat.1.symm) early
  obtain ⟨m, hnext, hfired, hlater, hle⟩ :=
    Timer.beats_fireUntil k.timer.threshold wake k.ledger n atBeat
  rw [interval_eq] at hkeeper hnotes
  rw [hkeeper, hnotes, hfired]
  refine ⟨interval_eq, silent, _, m, rfl, hnext, rfl, fun i hi => ?_, hle⟩
  rcases Nat.lt_or_ge i n with hfirst | hsecond
  · exact before i hfirst
  · exact hlater i hi hsecond

theorem onBeat_sleep (h : k.Steady interval origin fired) {span : Nat} (hspan : span ≠ 0) :
    (k.sleep span).1.OnBeat interval origin (fired ++ beatsIn (k.sleep span).2) := by
  have hwake : k.clock < Time.ceilMs (k.clock + min span Time.longestWait) := by
    have := Time.le_ceilMs (k.clock + min span Time.longestWait)
    have := Time.longestWait_pos
    omega
  rw [sleep_eq hspan]
  rcases h with ⟨⟨hinterval, hsilent, hphase⟩, rfl, rfl⟩ |
    ⟨hinterval, hsilent, deadline, n, hphase, hatBeat, rfl, hbefore, hnext⟩
  · have hrun : k.run = ((k.attend k.clock).1,
        .cleanupStarted k.timer.period k.timer.threshold :: (k.attend k.clock).2) := by
      simp only [run, hphase]
    rw [hrun]
    exact onBeat_tickUntil_attend hinterval hsilent (.zero interval k.clock)
      (fun i hi => absurd hi (Nat.not_lt_zero i)) (Timer.le_beat ..) hwake
  · have hrun : k.run = k.attend deadline := by
      simp only [run, hphase]
    rw [hrun]
    exact onBeat_tickUntil_attend hinterval hsilent hatBeat
      (fun i hi => (hbefore i hi).trans hwake) hnext hwake

theorem steady_sleep (h : k.Steady interval origin fired) (span : Nat) :
    (k.sleep span).1.Steady interval origin (fired ++ beatsIn (k.sleep span).2) := by
  rcases eq_or_ne span 0 with rfl | hspan
  · exact h.of_same rfl rfl fun _ hmem => absurd hmem List.not_mem_nil
  · exact .inr (onBeat_sleep h hspan)

end Keeper

/-! ## Runs -/

namespace Tracker

variable {interval origin : Nat} {fired : List Nat}

theorem steady_serve {t : Tracker} (h : t.keeper.Steady interval origin fired) (command : Command) :
    (t.serve (.command command)).1.keeper.Steady interval origin
      (fired ++ beatsIn (t.serve (.command command)).2) := by
  match command with
  | .subscribe filter =>
    exact h.of_same (timer_change ..) (clock_change ..) (unscheduled_change _ .first filter t)
  | .unsubscribe filter =>
    exact h.of_same (timer_change ..) (clock_change ..) (unscheduled_change _ .last filter t)
  | .query _ | .sweep => exact h.of_same rfl rfl (List.forall_mem_singleton.2 rfl)
  | .size => exact h.of_same rfl rfl fun _ hmem => absurd hmem List.not_mem_nil
  | .sleep span => exact Keeper.steady_sleep h span

theorem steady_run {t : Tracker} (h : t.keeper.Steady interval origin fired)
    (commands : List Command) :
    (t.run (commands.map .command)).1.keeper.Steady interval origin
      (fired ++ beatsIn (t.run (commands.map .command)).2) := by
  induction commands generalizing t fired with
  | nil => exact h.of_same rfl rfl fun _ hmem => absurd hmem List.not_mem_nil
  | cons command commands ih =>
    have hrun := ih (steady_serve h command)
    rw [List.append_assoc, ← beatsIn_append] at hrun
    exact hrun

/-- A request that does not let the timer run leaves it where it was. -/
theorem phase_serve_of_stays {t : Tracker} {request : Request} (h : request.givesWay = false) :
    (t.serve request).1.keeper.timer.phase = t.keeper.timer.phase := by
  match request with
  | .command (.subscribe _) | .command (.unsubscribe _) =>
    exact congrArg Timer.phase (timer_change ..)
  | .command (.query _) | .command .size | .command .sweep | .stop => rfl
  | .command (.sleep span) =>
    obtain rfl : span = 0 := by simpa [Request.givesWay] using h
    rfl

/-- A timer has yet to run if it had yet to and no request let it. -/
theorem unstarted_run_iff (t : Tracker) (requests : List Request) :
    (t.run requests).1.keeper.timer.phase = .unstarted ↔
      t.keeper.timer.phase = .unstarted ∧ ∀ request ∈ requests, request.givesWay = false := by
  induction requests generalizing t with
  | nil => exact ⟨fun h => ⟨h, fun _ hmem => absurd hmem List.not_mem_nil⟩, And.left⟩
  | cons request requests ih =>
    rw [List.forall_mem_cons]
    refine (ih (t.serve request).1).trans ⟨?_, ?_⟩
    · rintro ⟨hphase, hstay⟩
      obtain ⟨hbefore, hfirst⟩ := unstarted_of_serve hphase
      exact ⟨hbefore, hfirst, hstay⟩
    · rintro ⟨hphase, hfirst, hstay⟩
      exact ⟨(phase_serve_of_stays hfirst).trans hphase, hstay⟩

theorem run_sleep (t : Tracker) (span : Nat) :
    t.run [.command (.sleep span)] = t.keep (t.keeper.sleep span) :=
  Prod.ext rfl (List.append_nil _)

theorem run_sleep_sleep (t : Tracker) (a b : Nat) :
    t.run [.command (.sleep a), .command (.sleep b)] =
      t.keep (((t.keeper.sleep a).1.sleep b).1,
        (t.keeper.sleep a).2 ++ ((t.keeper.sleep a).1.sleep b).2) :=
  Prod.ext rfl (congrArg ((t.keeper.sleep a).2 ++ ·) (List.append_nil _))

/-- Two sleeps in a row are one exactly when they are to the keeper. -/
theorem run_sleep_sleep_iff (t : Tracker) (a b : Nat) :
    t.run [.command (.sleep a), .command (.sleep b)] = t.run [.command (.sleep (a + b))] ↔
      ((t.keeper.sleep a).1.sleep b).1 = (t.keeper.sleep (a + b)).1 ∧
        (t.keeper.sleep a).2 ++ ((t.keeper.sleep a).1.sleep b).2 = (t.keeper.sleep (a + b)).2 := by
  rw [run_sleep_sleep, run_sleep, keep, keep, Prod.mk.injEq, Tracker.mk.injEq, and_iff_left rfl]

/-- Where two sleeps lead, if neither is of zero. -/
theorem clock_run_sleep_sleep {a b : Nat} (ha : a ≠ 0) (hb : b ≠ 0) (t : Tracker) :
    (t.run [.command (.sleep a), .command (.sleep b)]).1.clock =
      Time.ceilMs (Time.ceilMs (t.clock + min a Time.longestWait) + min b Time.longestWait) := by
  rw [run_sleep_sleep]
  refine (Keeper.clock_sleep hb (t.keeper.sleep a).1).trans ?_
  rw [Keeper.clock_sleep ha]
  rfl

/-- While the clock moves by sleeps alone and nobody tells the timer to end, it does not drift. Its
scheduled sweeps are those at the beats before the clock, one each and in order, once there was a
sleep of more than zero; before that there are none. How a sleep of whole milliseconds is split
makes no difference to anything, unless it is past the longest wait. -/
theorem beats_run {interval : Nat} {start : Tracker} (fresh : start.keeper.Fresh interval)
    (commands : List Command) :
    let last := (start.run (commands.map .command)).1
    let fired := beatsIn (start.run (commands.map .command)).2
    ((∃ span, .sleep span ∈ commands ∧ span ≠ 0) →
        ∃ n, fired = Timer.beats interval start.clock n ∧
          ∀ k, k < n ↔ Timer.beat interval start.clock k < last.clock) ∧
      ((∀ span, .sleep span ∈ commands → span = 0) → fired = [] ∧ last.clock = start.clock) ∧
      fired.Pairwise (· < ·) ∧
      ∀ a b, a % Time.perMillisecond = 0 → b % Time.perMillisecond = 0 →
        (last.run [.command (.sleep a), .command (.sleep b)] =
            last.run [.command (.sleep (a + b))] ↔
          a = 0 ∨ b = 0 ∨ a + b ≤ Time.longestWait) := by
  intro last fired
  have hsteady : last.keeper.Steady interval start.clock fired :=
    steady_run (.inl ⟨fresh, rfl, rfl⟩) commands
  have hphase : last.keeper.timer.phase = .unstarted ↔
      ∀ request ∈ commands.map Request.command, request.givesWay = false :=
    (unstarted_run_iff start _).trans (and_iff_right fresh.unstarted)
  rw [← and_assoc, ← and_assoc]
  refine ⟨?_, fun a b ha hb =>
    (run_sleep_sleep_iff last a b).trans (Keeper.sleep_add_iff ha hb last.keeper)⟩
  rcases hsteady with ⟨hfresh, hclock, hfired⟩ |
    ⟨-, -, deadline, n, hwaits, -, hfired, hbefore, hnext⟩
  · refine ⟨⟨?_, fun _ => ⟨hfired, hclock⟩⟩, hfired ▸ .nil⟩
    rintro ⟨span, hmem, hspan⟩
    have hstays := hphase.1 hfresh.unstarted _ (List.mem_map_of_mem hmem)
    exact absurd (by simpa [Request.givesWay] using hstays) hspan
  · refine ⟨⟨fun _ => ⟨n, hfired, Timer.lt_iff_beat_lt hbefore hnext⟩, fun hzero => ?_⟩, ?_⟩
    · have hunstarted := hphase.2 fun request hmem => by
        obtain ⟨command, hcommand, rfl⟩ := List.mem_map.1 hmem
        cases command with
        | sleep span => simp [Request.givesWay, hzero span hcommand]
        | _ => rfl
      rw [hwaits] at hunstarted
      cases hunstarted
    · rw [hfired, Timer.beats, List.pairwise_map]
      exact List.pairwise_lt_range.imp Timer.beat_lt_beat

/-- A timer of two milliseconds and a half that first runs at half a millisecond: its ticks are
apart by two milliseconds or three, and the one at the moment of waking is yet to come. -/
theorem beats_run_at_fractions :
    let timer : Timer := { interval := 2500000, threshold := 0 }
    let start : Tracker := ⟨{ clock := 500000, timer }, .silent⟩
    let commands : List Command := [.sleep 4000000, .sleep 3000000]
    start.keeper.Fresh 2500000 ∧ (start.run (commands.map .command)).1.clock = 8000000 ∧
      beatsIn (start.run (commands.map .command)).2 = [1000000, 3000000, 6000000] := by
  intro timer start commands
  have hfresh : start.keeper.Fresh 2500000 := ⟨rfl, rfl, rfl⟩
  have hclock : (start.run (commands.map .command)).1.clock = 8000000 := by
    refine (clock_run_sleep_sleep (by decide) (by decide) start).trans ?_
    rw [show start.clock = 500000 from rfl]
    decide
  obtain ⟨n, hfired, hbefore⟩ := (beats_run hfresh commands).1 ⟨4000000, by decide⟩
  rw [hclock, show start.clock = 500000 from rfl] at hbefore
  have hlast : 2 < n := (hbefore 2).2 (by decide)
  have hnext : ¬ 3 < n := fun h => absurd ((hbefore 3).1 h) (by decide)
  obtain rfl : n = 3 := by omega
  refine ⟨hfresh, hclock, hfired.trans ?_⟩
  rw [show start.clock = 500000 from rfl]
  decide

/-- Past the longest wait the ticks are not a period apart, and one sleep of forty years is not two
of twenty. -/
theorem beat_lost_past_longest_wait :
    let year := 365 * 24 * 3600 * Time.perSecond
    let start := (create .silent ⟨40 * year, 0⟩).1
    let requests : List Request :=
      [.command (.sleep (30 * year)), .command (.sleep Time.perMillisecond)]
    let tick (k : Nat) := Time.ceilMs (start.clock + k * Timer.periodOf (40 * year))
    (¬ ∃ n, beatsIn (start.run requests).2 = (List.range n).map tick ∧
        ∀ k, k < n ↔ tick k < (start.run requests).1.clock) ∧
      start.run [.command (.sleep (20 * year)), .command (.sleep (20 * year))] ≠
        start.run [.command (.sleep (20 * year + 20 * year))] := by
  intro year start requests tick
  refine ⟨?_, fun hsame => ?_⟩
  · have hfresh : start.keeper.Fresh (40 * year) := ⟨rfl, rfl, rfl⟩
    have hclock : (start.run requests).1.keeper.clock = 30 * year + Time.perMillisecond := by
      refine (clock_run_sleep_sleep (by decide) (by decide) start).trans ?_
      rw [show start.clock = 0 from rfl]
      decide
    rintro ⟨n, hfired, htick⟩
    have hsteady := steady_run (.inl ⟨hfresh, rfl, rfl⟩)
      [.sleep (30 * year), .sleep Time.perMillisecond]
    rw [show List.map Request.command _ = requests from rfl] at hsteady
    rcases hsteady with ⟨-, hstays, -⟩ | ⟨-, -, _, m, -, -, hbeats, hbefore, hnext⟩
    · exact absurd (hclock.symm.trans hstays) (by decide)
    · -- The second tick came at thirty years, and is due at forty.
      have hsecond : 1 < m := by
        rw [Timer.lt_iff_beat_lt hbefore hnext, hclock, show start.keeper.clock = 0 from rfl]
        decide
      have hlength : m = n := by
        have := congrArg List.length (hbeats.symm.trans hfired)
        simpa [Timer.beats] using this
      have hdue := (htick 1).1 (hlength ▸ hsecond)
      rw [clock, hclock] at hdue
      exact absurd hdue (by decide)
  · have hsleep := (Keeper.sleep_add_iff (by decide) (by decide) start.keeper).1
      ((run_sleep_sleep_iff start _ _).1 hsame)
    exact absurd hsleep (by decide)

end Tracker

end Audience
