import Audience.Ledger
import Audience.Note
import Audience.Signal

/-!
# The cleanup timer

A tick fires once the clock has reached its deadline, rounded up to the
clock's grain, and sweeps the ledger. The next deadline is a period after the
one that fired if that was not late, and a period after the firing if it was
(`Timer.nextDeadline`), so a long jump of the clock leaves no backlog; but
nobody waits longer than `Time.longestWait`.

`Timer.attend` is a timer at work while the clock stands still. Before every
tick it looks for a signal to end, so nothing fires once there is one
(`attend_of_signalled`); without one it fires what is due, as `Timer.fireDue`
does (`attend_of_isSilent`). `Timer.fireUntil` fires what comes up while the
clock moves, when nobody is there to signal.
-/

namespace Audience

/-- How far a timer has come. -/
inductive Phase where
  | unstarted
  | waiting (deadline : Nat)
  | ended
deriving DecidableEq, Repr

/-- A cleanup timer. -/
structure Timer where
  interval : Nat
  threshold : Nat
  phase : Phase := .unstarted
  /-- The line on which the timer is told to end. -/
  line : SignalLine := {}
deriving DecidableEq, Repr

namespace Timer

/-- The shortest period of a timer. -/
def minPeriod : Nat := Time.perMillisecond

/-- A tick that fires up to this much after its deadline is not late. -/
def slack : Nat := 5 * Time.perMillisecond

/-- The period of a timer of the given interval. -/
def periodOf (interval : Nat) : Nat := max interval minPeriod

def period (t : Timer) : Nat := periodOf t.interval

/-- A timer that never runs. -/
def absent : Timer := { interval := 0, threshold := 0, phase := .ended }

def isRunning (t : Timer) : Bool := t.phase != .ended

/-- The deadline after one that fired at `now`, were there no longest wait. -/
def followingDeadline (interval now deadline : Nat) : Nat :=
  if now ≤ deadline + slack then deadline + periodOf interval else now + periodOf interval

/-- The deadline after one that fired at `now`. -/
def nextDeadline (interval now deadline : Nat) : Nat :=
  min (followingDeadline interval now deadline) (now + Time.longestWait)

theorem lt_nextDeadline {interval now deadline : Nat} (h : deadline ≤ now) :
    deadline < nextDeadline interval now deadline := by
  have : 0 < periodOf interval := by
    unfold periodOf minPeriod Time.perMillisecond; omega
  have := Time.longestWait_pos
  unfold nextDeadline followingDeadline
  split <;> omega

theorem sub_nextDeadline_lt {interval now deadline wake : Nat} (due : deadline ≤ now)
    (early : deadline < wake) : wake - nextDeadline interval now deadline < wake - deadline := by
  have := @lt_nextDeadline interval now deadline due
  omega

end Timer

/-- A stretch of ticks: the deadline and the ledger after it, and what was noted. -/
structure Ticks where
  deadline : Nat
  ledger : Ledger
  notes : List Note

/-- A sweep of a ledger with its note. -/
def Ledger.sweepNoted (scheduled : Bool) (now : Int) (threshold : Nat) (l : Ledger) :
    Ledger × Note :=
  let (left, removed) := l.sweep now threshold
  (left, .swept ⟨scheduled, now, removed, left.size⟩)

/-- A stretch of a timer's work: how far it has come, its line and the ledger after it, and what was
noted. -/
structure Stint where
  phase : Phase
  line : SignalLine
  ledger : Ledger
  notes : List Note

namespace Timer

/-- Lets a timer work at `now`, the clock standing there: it ends if it is signalled to, and fires a
tick that is due if not, until there is neither. -/
def attend (interval threshold now deadline : Nat) (line : SignalLine) (ledger : Ledger) : Stint :=
  match _h : line.receive with
  | (.signal, line) => ⟨.ended, line, ledger, [.cleanupStopped]⟩
  | (.closed, line) => ⟨.ended, line, ledger, [.cleanupStopped]⟩
  | (.missed _, line) => attend interval threshold now deadline line ledger
  | (.nothing, _) =>
    if Time.ceilMs deadline ≤ now then
      let (left, note) := ledger.sweepNoted true now threshold
      let rest := attend interval threshold now (nextDeadline interval now deadline) line left
      { rest with notes := note :: rest.notes }
    else ⟨.waiting deadline, line, ledger, []⟩
termination_by (line.behind, now + 1 - deadline)
decreasing_by
  · exact Prod.Lex.left _ _ (SignalLine.behind_lt_of_missed ‹_›)
  · have due := Nat.le_trans (Time.le_ceilMs deadline) ‹_›
    exact Prod.Lex.right _ (sub_nextDeadline_lt due (Nat.lt_succ_of_le due))

/-- Fires the ticks that are due at `now`, the clock standing there. -/
def fireDue (interval threshold now deadline : Nat) (ledger : Ledger) : Ticks :=
  if Time.ceilMs deadline ≤ now then
    let (left, note) := ledger.sweepNoted true now threshold
    let rest := fireDue interval threshold now (nextDeadline interval now deadline) left
    { rest with notes := note :: rest.notes }
  else ⟨deadline, ledger, []⟩
termination_by now + 1 - deadline
decreasing_by
  have due := Nat.le_trans (Time.le_ceilMs deadline) ‹_›
  exact sub_nextDeadline_lt due (Nat.lt_succ_of_le due)

/-- A timer that nobody signals to fires what is due. -/
theorem attend_of_isSilent {line : SignalLine} (silent : line.isSilent = true)
    (interval threshold now deadline : Nat) (ledger : Ledger) :
    attend interval threshold now deadline line ledger =
      let ticks := fireDue interval threshold now deadline ledger
      ⟨.waiting ticks.deadline, line, ticks.ledger, ticks.notes⟩ := by
  fun_induction fireDue interval threshold now deadline ledger with
  | case1 deadline ledger due left note hswept rest ih =>
    rw [attend, SignalLine.receive_of_isSilent silent]
    simp only [due, if_true, hswept, ih]
    rfl
  | case2 deadline ledger early =>
    rw [attend, SignalLine.receive_of_isSilent silent]
    simp only [early, if_false]

/-- A timer that is signalled to ends at once, whatever is due and however many signals there
are. -/
theorem attend_of_signalled {line : SignalLine} (signalled : line.isSilent = false)
    (interval threshold now deadline : Nat) (ledger : Ledger) :
    attend interval threshold now deadline line ledger =
      ⟨.ended, line.drained, ledger, [.cleanupStopped]⟩ := by
  rcases SignalLine.receive_of_not_isSilent signalled with h | h | ⟨n, next, h, hnext⟩
  · rw [attend, h]
  · rw [attend, h]
  · rw [attend, h]
    simp only
    rw [attend, hnext]

/-- Fires the ticks that come before `wake`, the clock standing at each in turn. -/
def fireUntil (interval threshold wake deadline : Nat) (ledger : Ledger) : Ticks :=
  if Time.ceilMs deadline < wake then
    let now := Time.ceilMs deadline
    let (left, note) := ledger.sweepNoted true now threshold
    let rest := fireUntil interval threshold wake (nextDeadline interval now deadline) left
    { rest with notes := note :: rest.notes }
  else ⟨deadline, ledger, []⟩
termination_by wake - deadline
decreasing_by
  have due := Time.le_ceilMs deadline
  exact sub_nextDeadline_lt due (Nat.lt_of_le_of_lt due ‹_›)

end Timer

end Audience
