import Audience.Keeper
import Audience.Proofs.History

/-!
# Histories of a keeper

`Accounts` says that a history accounts for what happened between two states
of a keeper: the ledger is what the history makes of it, the notes tell of its
transitions and no others, and its instants lie in order between the two
clocks. Accounts put together account for the whole (`Accounts.trans`).

As long as time passes and nothing else happens, the sweeps among the notes
account for everything (`accounts_sleep`, `accounts_jump`, `accounts_shutdown`).
-/

namespace Audience

/-- The sweep that a note tells of. -/
def Note.sweep? : Note → Option Event
  | .swept sweep => some (.sweep sweep.instant.toNat)
  | _ => none

/-- The transition that a note tells of, made when the listener is told. -/
def Note.transition? : Note → Option Transition
  | .turned transition => some transition
  | _ => none

/-- The sweeps that notes tell of, in order. -/
def sweepsIn (notes : List Note) : List Event := notes.filterMap (·.sweep?)

/-- The transitions that notes tell of, in order. -/
def turnedIn (notes : List Note) : List Transition := notes.filterMap (·.transition?)

theorem turnedIn_append (notes more : List Note) :
    turnedIn (notes ++ more) = turnedIn notes ++ turnedIn more :=
  List.filterMap_append

theorem sweepsIn_append (notes more : List Note) :
    sweepsIn (notes ++ more) = sweepsIn notes ++ sweepsIn more :=
  List.filterMap_append

theorem exists_of_mem_sweepsIn {event : Event} {notes : List Note} (h : event ∈ sweepsIn notes) :
    ∃ now, event = .sweep now := by
  obtain ⟨note, -, hs⟩ := List.mem_filterMap.1 h
  cases note <;> simp only [Note.sweep?, Option.some.injEq, reduceCtorEq] at hs
  exact ⟨_, hs.symm⟩

theorem toldIn_sweepsIn (notes : List Note) : toldIn (sweepsIn notes) = [] := by
  refine List.filterMap_eq_nil_iff.2 fun event h => ?_
  obtain ⟨now, rfl⟩ := exists_of_mem_sweepsIn h
  rfl

theorem Ledger.truthful_of_sweeps {threshold : Nat} {l : Ledger} {events : List Event}
    (h : ∀ event ∈ events, ∃ now, event = .sweep now) : l.Truthful threshold events := by
  induction events generalizing l with
  | nil => trivial
  | cons event events ih =>
    obtain ⟨now, rfl⟩ := h event List.mem_cons_self
    exact ⟨trivial, ih fun e he => h e (List.mem_cons_of_mem _ he)⟩

/-- What a history says of two states of a keeper, the second after the first, and of what was
noted in between. -/
structure Accounts (k k' : Keeper) (notes : List Note) (events : List Event) : Prop where
  threshold : k'.timer.threshold = k.timer.threshold
  ledger : k'.ledger = k.ledger.replay k.timer.threshold events
  truthful : k.ledger.Truthful k.timer.threshold events
  told : turnedIn notes = toldIn events
  clock : k.clock ≤ k'.clock
  within : ∀ event ∈ events, k.clock ≤ event.instant ∧ event.instant ≤ k'.clock
  sorted : InOrder events

namespace Accounts

variable {k k' k₁ k₂ : Keeper} {notes notes₁ notes₂ : List Note} {events events₁ events₂ : List Event}

theorem refl (k : Keeper) : Accounts k k [] [] where
  threshold := rfl
  ledger := rfl
  truthful := trivial
  told := rfl
  clock := Nat.le_refl _
  within := fun _ h => absurd h List.not_mem_nil
  sorted := .nil

theorem trans (h₁ : Accounts k k₁ notes₁ events₁) (h₂ : Accounts k₁ k₂ notes₂ events₂) :
    Accounts k k₂ (notes₁ ++ notes₂) (events₁ ++ events₂) where
  threshold := h₂.threshold.trans h₁.threshold
  ledger := by rw [h₂.ledger, h₁.threshold, h₁.ledger, Ledger.replay_append]
  truthful := by
    rw [Ledger.truthful_append, ← h₁.ledger, ← h₁.threshold]
    exact ⟨h₁.threshold ▸ h₁.truthful, h₂.truthful⟩
  told := by rw [turnedIn_append, toldIn_append, h₁.told, h₂.told]
  clock := h₁.clock.trans h₂.clock
  within := by
    intro event h
    rcases List.mem_append.1 h with h | h
    · exact ⟨(h₁.within event h).1, (h₁.within event h).2.trans h₂.clock⟩
    · exact ⟨h₁.clock.trans (h₂.within event h).1, (h₂.within event h).2⟩
  sorted := by
    refine List.pairwise_append.2 ⟨h₁.sorted, h₂.sorted, fun a ha b hb => ?_⟩
    exact (h₁.within a ha).2.trans (h₂.within b hb).1

/-- Notes that tell of no transition may come first. -/
theorem after (h : Accounts k k' notes events) (more : List Note) (hmore : turnedIn more = []) :
    Accounts k k' (more ++ notes) events :=
  { h with told := by rw [turnedIn_append, hmore, h.told]; rfl }

end Accounts

/-! ## Ticks -/

/-- What ticks on a ledger are: sweeps, which say how the ledger comes about. -/
structure Ticks.SweepOf (threshold : Nat) (l : Ledger) (ticks : Ticks) : Prop where
  ledger : ticks.ledger = l.replay threshold (sweepsIn ticks.notes)
  quiet : turnedIn ticks.notes = []

theorem Ticks.SweepOf.none (threshold deadline : Nat) (l : Ledger) :
    SweepOf threshold l ⟨deadline, l, []⟩ := ⟨rfl, rfl⟩

theorem sweepsIn_cons_of_sweepNoted {scheduled : Bool} {now threshold : Nat} {l left : Ledger}
    {note : Note} (h : l.sweepNoted scheduled now threshold = (left, note)) (notes : List Note) :
    sweepsIn (note :: notes) = .sweep now :: sweepsIn notes := by
  obtain ⟨-, rfl⟩ := Prod.mk.inj h
  simp [sweepsIn, Note.sweep?]

/-- A sweep and then ticks. -/
theorem Ticks.SweepOf.cons {now threshold : Nat} {l left : Ledger} {note : Note} {rest : Ticks}
    (hswept : l.sweepNoted true now threshold = (left, note)) (h : SweepOf threshold left rest) :
    SweepOf threshold l { rest with notes := note :: rest.notes } where
  ledger := by
    rw [sweepsIn_cons_of_sweepNoted hswept, Ledger.replay_cons, h.ledger,
      ← (Prod.mk.inj hswept).1]
    rfl
  quiet := by
    obtain ⟨-, rfl⟩ := Prod.mk.inj hswept
    exact h.quiet

namespace Timer

section FireDue

variable {interval threshold now deadline : Nat} {l : Ledger}

theorem sweepOf_fireDue :
    (fireDue interval threshold now deadline l).SweepOf threshold l := by
  fun_induction fireDue interval threshold now deadline l with
  | case1 deadline l due left note hswept rest ih =>
    exact ih.cons hswept
  | case2 => exact .none ..

/-- What is due fires while the clock stands still. -/
theorem instant_of_mem_fireDue :
    ∀ event ∈ sweepsIn (fireDue interval threshold now deadline l).notes, event.instant = now := by
  fun_induction fireDue interval threshold now deadline l with
  | case1 deadline l due left note hswept rest ih =>
    intro event h
    simp only [sweepsIn_cons_of_sweepNoted hswept, List.mem_cons] at h
    rcases h with rfl | h
    · rfl
    · exact ih event h
  | case2 => exact fun _ h => absurd h List.not_mem_nil

/-- Afterwards nothing is due. -/
theorem lt_deadline_fireDue :
    now < Time.ceilMs (fireDue interval threshold now deadline l).deadline := by
  fun_induction fireDue interval threshold now deadline l with
  | case1 deadline l due left note hswept rest ih => exact ih
  | case2 deadline l due => exact Nat.lt_of_not_le due

end FireDue

section FireUntil

variable {interval threshold wake deadline : Nat} {l : Ledger}

theorem sweepOf_fireUntil :
    (fireUntil interval threshold wake deadline l).SweepOf threshold l := by
  fun_induction fireUntil interval threshold wake deadline l with
  | case1 deadline l early now left note hswept rest ih =>
    exact ih.cons hswept
  | case2 => exact .none ..

/-- The deadlines come one after another, and what fires does so between the first and waking. -/
theorem sorted_fireUntil :
    (∀ event ∈ sweepsIn (fireUntil interval threshold wake deadline l).notes,
        Time.ceilMs deadline ≤ event.instant ∧ event.instant < wake) ∧
      InOrder (sweepsIn (fireUntil interval threshold wake deadline l).notes) := by
  fun_induction fireUntil interval threshold wake deadline l with
  | case1 deadline l early now left note hswept rest ih =>
    obtain ⟨hwithin, hsorted⟩ := ih
    have hnext : now ≤ Time.ceilMs (nextDeadline interval now deadline) :=
      Time.ceilMs_mono (Nat.le_of_lt (lt_nextDeadline (Time.le_ceilMs deadline)))
    simp only [sweepsIn_cons_of_sweepNoted hswept]
    refine ⟨fun event h => ?_, hsorted.cons fun event h => hnext.trans (hwithin event h).1⟩
    rcases List.mem_cons.1 h with rfl | h
    · exact ⟨Nat.le_refl now, early⟩
    · exact ⟨hnext.trans (hwithin event h).1, (hwithin event h).2⟩
  | case2 => exact ⟨fun _ h => absurd h List.not_mem_nil, .nil⟩

end FireUntil

end Timer

/-! ## Time passing -/

namespace Keeper

/-- Whether no tick is due. -/
def Settled (k : Keeper) : Prop :=
  ∀ deadline, k.timer.phase = .waiting deadline → k.clock < Time.ceilMs deadline

/-- Ticks of a keeper between two of its clocks. -/
theorem accounts_ticks {k : Keeper} {ticks : Ticks} {clock : Nat}
    (hsweep : ticks.SweepOf k.timer.threshold k.ledger) (hclock : k.clock ≤ clock)
    (hwithin : ∀ event ∈ sweepsIn ticks.notes, k.clock ≤ event.instant ∧ event.instant ≤ clock)
    (hsorted : InOrder (sweepsIn ticks.notes)) :
    Accounts k { k.afterTicks ticks with clock } ticks.notes (sweepsIn ticks.notes) where
  threshold := rfl
  ledger := hsweep.ledger
  truthful := Ledger.truthful_of_sweeps fun _ => exists_of_mem_sweepsIn
  told := by rw [hsweep.quiet, toldIn_sweepsIn]
  clock := hclock
  within := hwithin
  sorted := hsorted

theorem accounts_fire (k : Keeper) (deadline : Nat) :
    Accounts k (k.fire deadline).1 (k.fire deadline).2 (sweepsIn (k.fire deadline).2) := by
  have hnow := @Timer.instant_of_mem_fireDue k.timer.interval k.timer.threshold k.clock deadline
    k.ledger
  refine accounts_ticks Timer.sweepOf_fireDue (Nat.le_refl _) (fun event h => ?_) ?_
  · rw [hnow event h]
    exact ⟨Nat.le_refl _, Nat.le_refl _⟩
  · refine List.pairwise_of_forall_mem_list fun a ha b hb => ?_
    rw [hnow a ha, hnow b hb]

theorem settled_fire (k : Keeper) (deadline : Nat) : (k.fire deadline).1.Settled := by
  intro next h
  obtain rfl := Phase.waiting.inj h
  exact Timer.lt_deadline_fireDue

theorem accounts_ended (k : Keeper) : Accounts k k.ended [] [] := { Accounts.refl k with }

theorem accounts_attend (k : Keeper) (deadline : Nat) :
    Accounts k (k.attend deadline).1 (k.attend deadline).2 (sweepsIn (k.attend deadline).2) := by
  rw [attend_eq]
  split
  · exact accounts_fire k deadline
  · exact (accounts_ended k).after [.cleanupStopped] rfl

theorem settled_attend (k : Keeper) (deadline : Nat) : (k.attend deadline).1.Settled := by
  rw [attend_eq]
  split
  · exact settled_fire k deadline
  · exact fun _ h => nomatch h

theorem clock_attend (k : Keeper) (deadline : Nat) : (k.attend deadline).1.clock = k.clock := rfl

theorem accounts_run (k : Keeper) : Accounts k k.run.1 k.run.2 (sweepsIn k.run.2) := by
  unfold run
  split
  · exact .refl k
  · exact (accounts_attend k k.clock).after [.cleanupStarted _ _] rfl
  · exact accounts_attend k _

theorem settled_run (k : Keeper) : k.run.1.Settled := by
  unfold run
  split
  · next h => intro deadline hw; rw [h] at hw; exact nomatch hw
  · exact settled_attend k k.clock
  · exact settled_attend k _

theorem clock_run (k : Keeper) : k.run.1.clock = k.clock := by
  unfold run
  split
  · rfl
  · exact clock_attend k k.clock
  · exact clock_attend k _

/-- Ticks while the clock moves on to the moment of waking. -/
theorem accounts_tickUntil {k : Keeper} (h : k.Settled) {wake : Nat} (hwake : k.clock ≤ wake) :
    Accounts k { (k.tickUntil wake).1 with clock := wake } (k.tickUntil wake).2
      (sweepsIn (k.tickUntil wake).2) := by
  unfold tickUntil
  split
  · next deadline hw =>
    obtain ⟨hwithin, hsorted⟩ := @Timer.sorted_fireUntil k.timer.interval k.timer.threshold wake
      deadline k.ledger
    refine accounts_ticks Timer.sweepOf_fireUntil hwake (fun event he => ?_) hsorted
    have := h deadline hw
    have := hwithin event he
    omega
  · exact { Accounts.refl k with clock := hwake, within := fun _ h => absurd h List.not_mem_nil }

theorem accounts_sleep (k : Keeper) (span : Nat) :
    Accounts k (k.sleep span).1 (k.sleep span).2 (sweepsIn (k.sleep span).2) := by
  unfold sleep
  split
  · exact .refl k
  · have hwake : k.clock ≤ Time.ceilMs (k.clock + min span Time.longestWait) :=
      (Nat.le_add_right _ _).trans (Time.le_ceilMs _)
    simp only [sweepsIn_append]
    -- The timer runs where the clock is before anything fires on the way.
    exact (accounts_run k).trans
      (accounts_tickUntil (settled_run k) (by rw [clock_run]; exact hwake))

/-- Moving the clock on in one step. -/
theorem accounts_jump (k : Keeper) (span : Nat) :
    Accounts k (k.jump span).1 (k.jump span).2 (sweepsIn (k.jump span).2) := by
  have hmove : Accounts k { k with clock := k.clock + span } [] [] :=
    { Accounts.refl k with
      clock := Nat.le_add_right _ _
      within := fun _ h => absurd h List.not_mem_nil }
  exact hmove.trans (accounts_run _)

theorem accounts_stop (k : Keeper) : Accounts k k.stop [] [] := { Accounts.refl k with }

theorem accounts_shutdown (k : Keeper) :
    Accounts k k.shutdown.1 k.shutdown.2 (sweepsIn k.shutdown.2) :=
  (accounts_stop k).trans (accounts_run _)

/-- A sweep outside the schedule. -/
theorem accounts_sweep (k : Keeper) :
    Accounts k (k.sweep k.timer.threshold).1 [(k.sweep k.timer.threshold).2.2] [.sweep k.clock] where
  threshold := rfl
  ledger := rfl
  truthful := ⟨trivial, trivial⟩
  told := rfl
  clock := Nat.le_refl _
  within := by
    intro event h
    obtain rfl := List.mem_singleton.1 h
    exact ⟨Nat.le_refl _, Nat.le_refl _⟩
  sorted := List.pairwise_singleton _ _

end Keeper

end Audience
