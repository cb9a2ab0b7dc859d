import Audience.Proofs.Watching

/-!
# What a run counts

The number of holders of a filter after a run, whatever the listener does, is
what the calls on that filter alone add up to. `Counts` says of a tracker and
a history that this is so and what follows for the number of active filters
and for queries.
-/

namespace Audience

/-- A tracker counts a history when each filter has the holders that the calls on it add up to. -/
structure Counts (t : Tracker) (history : List Event) : Prop where
  sound : t.ledger.Sound
  holders : ∀ f, t.ledger.holders f = tally f history

namespace Counts

variable {t : Tracker} {history : List Event}

theorem active (h : Counts t history) : t.active = {f | 0 < tally f history}.ncard := by
  rw [Tracker.active, Ledger.active_eq_ncard h.sound]
  simp only [h.holders]

theorem hasAudience_iff (h : Counts t history) (topic : String) :
    t.hasAudience topic = true ↔ ∃ f, 0 < tally f history ∧ Topic.covers f topic = true := by
  rw [Tracker.hasAudience, Ledger.anyActive_iff h.sound]
  simp only [h.holders]

end Counts

namespace Tracker

theorem counts_run (listener : Listener) (options : CleanupOptions) (requests : List Request) :
    Counts ((create listener options).1.run requests).1
      ((create listener options).1.history requests) := by
  have h := (accounts_run (create listener options).1 requests).ledger
  constructor
  · rw [ledger, h]
    exact Ledger.sound_ofHistory ..
  · intro f
    rw [ledger, h]
    exact Ledger.holders_ofHistory ..

/-- After any run the count of a filter is what the calls on that filter add up to: those of the
requests alone if the listener only watches, and those it makes in turn otherwise. The number of
active filters and the answer to a query follow from these counts, none of which passes the number
of subscriptions to its filter. -/
theorem count_run_eq_tally (listener : Listener) (options : CleanupOptions)
    (requests : List Request) :
    let start := (create listener options).1
    let history := start.history requests
    let last := (start.run requests).1
    (∀ f, (last.ledger.count? f).getD 0 = tally f history) ∧
      last.active = {f | 0 < tally f history}.ncard ∧
      (∀ topic, last.hasAudience topic = true ↔
        ∃ f, 0 < tally f history ∧ Topic.covers f topic = true) ∧
      (∀ f, tally f history ≤ (callsOn f history).count .first) ∧
      (listener.Watches → ∀ f, callsOn f history = requests.filterMap (·.turnOn? f)) := by
  intro start history last
  have h : Counts last history := counts_run listener options requests
  refine ⟨h.holders, h.active, h.hasAudience_iff, fun f => ?_, fun hw f => ?_⟩
  · have := Turn.tally_le_count 0 (callsOn f history)
    rwa [Nat.zero_add] at this
  · exact callsOn_history_of_watches hw requests f

end Tracker

end Audience
