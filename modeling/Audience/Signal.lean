/-!
# Signals

Whoever owns a timer signals to it on a line that keeps the newest signal only.
A receiver that has fallen behind is told once how many signals it missed, and
gets the newest when it looks again. When nothing is left on the line and the
sender is gone, it is told that.
-/

namespace Audience

/-- A line of signals with its one receiver. -/
structure SignalLine where
  /-- How many signals the receiver is behind. Only the newest of them is kept. -/
  behind : Nat := 0
  /-- Whether the sender is gone. -/
  closed : Bool := false
deriving DecidableEq, Repr

/-- What a receiver gets when it looks. -/
inductive Receipt where
  | nothing
  | signal
  | missed (count : Nat)
  | closed
deriving DecidableEq, Repr

namespace SignalLine

def send (l : SignalLine) : SignalLine := { l with behind := l.behind + 1 }

/-- The line whose sender has gone. -/
def close (l : SignalLine) : SignalLine := { l with closed := true }

/-- Lets the receiver look. -/
def receive : SignalLine → Receipt × SignalLine
  | ⟨0, false⟩ => (.nothing, ⟨0, false⟩)
  | ⟨0, true⟩ => (.closed, ⟨0, true⟩)
  | ⟨1, closed⟩ => (.signal, ⟨0, closed⟩)
  | ⟨n + 2, closed⟩ => (.missed (n + 1), ⟨1, closed⟩)

/-- Whether a receiver that looks finds nothing. -/
def isSilent (l : SignalLine) : Bool := l.behind == 0 && !l.closed

/-- The line when its receiver is not behind. -/
def drained (l : SignalLine) : SignalLine := { l with behind := 0 }

theorem receive_of_isSilent {l : SignalLine} (h : l.isSilent = true) :
    l.receive = (.nothing, l) := by
  obtain ⟨behind, closed⟩ := l
  obtain ⟨rfl, rfl⟩ : behind = 0 ∧ closed = false := by simpa [isSilent] using h
  rfl

/-- Unless the line is silent, a receiver that looks as often as it is told to gets a signal, or
hears that the sender is gone, by the second time. -/
theorem receive_of_not_isSilent {l : SignalLine} (h : l.isSilent = false) :
    l.receive = (.signal, l.drained) ∨ l.receive = (.closed, l.drained) ∨
      ∃ n next, l.receive = (.missed n, next) ∧ next.receive = (.signal, l.drained) := by
  obtain ⟨behind, closed⟩ := l
  match behind, closed with
  | 0, false => exact nomatch h
  | 0, true => exact .inr (.inl rfl)
  | 1, closed => exact .inl rfl
  | n + 2, closed => exact .inr (.inr ⟨n + 1, ⟨1, closed⟩, rfl, rfl⟩)

/-- Hearing of missed signals brings the receiver closer. -/
theorem behind_lt_of_missed {l next : SignalLine} {n : Nat} (h : l.receive = (.missed n, next)) :
    next.behind < l.behind := by
  unfold receive at h
  split at h
  · exact nomatch h
  · exact nomatch h
  · exact nomatch h
  · obtain ⟨-, rfl⟩ := Prod.mk.inj h
    exact Nat.lt_add_left _ Nat.one_lt_two

end SignalLine

end Audience
