import Audience.Proofs.Counts

/-!
# What a listener is told

A run tells the listener of exactly those calls that turn the audience of
their filter. For each filter these depend on the calls on that filter alone
and alternate, first holder, last holder, first holder, whatever was swept in
between.
-/

namespace Audience

namespace Tracker

/-- The transitions that the listener is told of in a run are those of the history's calls that are
marked as told. For each filter they are the turns that the calls on that filter alone make, and
alternate, beginning with a first holder. A call is told of exactly if it is one holder more where
the calls before it leave none, or one holder less where they leave one. After the run the latest
transition of a filter is a first holder exactly if the filter has holders. -/
theorem told_run_alternates (listener : Listener) (options : CleanupOptions)
    (requests : List Request) :
    let start := (create listener options).1
    let history := start.history requests
    let last := (start.run requests).1
    let told := turnedIn (start.run requests).2
    told = toldIn history ∧
      (∀ f, turnsOf f told = Turn.transitions 0 (callsOn f history)) ∧
      (∀ f, Turn.Alternates (turnsOf f told)) ∧
      (∀ before now turn f marked after, history = before ++ .call now turn f marked :: after →
        (marked = true ↔ turn = .first ∧ tally f before = 0 ∨ turn = .last ∧ tally f before = 1)) ∧
      ∀ f, (turnsOf f told).getLast? = some .first ↔ 0 < last.ledger.holders f := by
  intro start history last told
  have haccounts : Accounts start.keeper last.keeper _ history := accounts_run start requests
  have htold : told = toldIn history := haccounts.told
  have hturns : ∀ f, turnsOf f told = Turn.transitions 0 (callsOn f history) := fun f => by
    rw [htold]
    exact Ledger.turnsOf_toldIn Ledger.sound_empty haccounts.truthful f
  refine ⟨htold, hturns, fun f => ?_, ?_, fun f => ?_⟩
  · rw [hturns]
    exact Turn.alternates_transitions _
  · intro before now turn f marked after hsplit
    exact Ledger.told_iff (hsplit ▸ haccounts.truthful)
  · rw [hturns, Turn.getLast?_transitions, (counts_run listener options requests).holders]
    exact Iff.rfl

end Tracker

end Audience
