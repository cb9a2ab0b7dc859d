import Audience.Proofs.BrokerRun
import Audience.Proofs.Counts

/-!
# Who holds what

A tracker keeps no more than a number for each filter. Where every client
subscribes to a filter and gives it up in turn, as engines see to it, that
number is how many clients hold the filter (`tally_eq_ncard_holding`): a
subscription adds a client that did not hold the filter, its end takes away
one that did. So a broker has an audience for a topic exactly when some client
holds a filter that covers it (`hasAudience_run`).
-/

namespace Audience

/-- A client's call on a filter: that it subscribes to it or gives it up. -/
structure ClientCall where
  client : String
  turn : Turn
deriving DecidableEq, Repr

namespace ClientCall

/-- The calls of a client, in order. -/
def turnsBy (client : String) (calls : List ClientCall) : List Turn :=
  calls.filterMap fun c => if c.client = client then some c.turn else none

/-- The clients whose last call is a subscription. -/
def holding (calls : List ClientCall) : Set String :=
  {client | (turnsBy client calls).getLast? = some .first}

/-- Whether every client subscribes and unsubscribes in turn. -/
def InTurn (calls : List ClientCall) : Prop := ∀ client, Turn.Alternates (turnsBy client calls)

variable {calls : List ClientCall} {client : String}

theorem mem_holding :
    client ∈ holding calls ↔ (turnsBy client calls).getLast? = some .first :=
  Iff.rfl

theorem turnsBy_concat (c : ClientCall) (client : String) (calls : List ClientCall) :
    turnsBy client (calls ++ [c]) =
      if c.client = client then turnsBy client calls ++ [c.turn] else turnsBy client calls := by
  by_cases h : c.client = client
  · simp [turnsBy, h]
  · simp [turnsBy, h]

theorem InTurn.of_concat {c : ClientCall} (h : InTurn (calls ++ [c])) : InTurn calls := by
  intro client
  have hclient := h client
  rw [turnsBy_concat] at hclient
  split at hclient
  · exact ((Turn.alternates_concat _ _).1 hclient).1
  · exact hclient

/-- Whoever subscribes did not hold the filter, and whoever gives it up did. -/
theorem InTurn.turn_eq_first_iff {c : ClientCall} (h : InTurn (calls ++ [c])) :
    c.turn = .first ↔ c.client ∉ holding calls := by
  have hclient := h c.client
  rw [turnsBy_concat, if_pos rfl] at hclient
  exact ((Turn.alternates_concat _ _).1 hclient).2

theorem holding_concat_first (client : String) (calls : List ClientCall) :
    holding (calls ++ [⟨client, .first⟩]) = insert client (holding calls) := by
  ext other
  rw [Set.mem_insert_iff, mem_holding, mem_holding, turnsBy_concat]
  by_cases h : client = other
  · simp [h]
  · simp [h, Ne.symm h]

theorem holding_concat_last (client : String) (calls : List ClientCall) :
    holding (calls ++ [⟨client, .last⟩]) = holding calls \ {client} := by
  ext other
  rw [Set.mem_sdiff_singleton, mem_holding, mem_holding, turnsBy_concat]
  by_cases h : client = other
  · simp [h]
  · simp [h, Ne.symm h]

/-- The calls on a filter add up to the number of clients that hold it. -/
theorem tally_eq_ncard_holding (h : InTurn calls) :
    (holding calls).Finite ∧ Turn.tally 0 (calls.map turn) = (holding calls).ncard := by
  induction calls using List.reverseRecOn with
  | nil => simp [holding, turnsBy]
  | append_singleton calls c ih =>
    obtain ⟨hfinite, htally⟩ := ih h.of_concat
    have hturn := h.turn_eq_first_iff
    obtain ⟨client, turn⟩ := c
    rw [List.map_append, Turn.tally_append, htally]
    cases turn with
    | first =>
      have hnew : client ∉ holding calls := hturn.1 rfl
      rw [holding_concat_first, Set.ncard_insert_of_notMem hnew hfinite]
      exact ⟨hfinite.insert client, rfl⟩
    | last =>
      have hold : client ∈ holding calls := by
        by_contra hnew
        cases hturn.2 hnew
      rw [holding_concat_last, Set.ncard_sdiff_singleton_of_mem hold]
      exact ⟨hfinite.subset Set.sdiff_subset, rfl⟩

end ClientCall

namespace Broker

/-- The client's call on a filter, if the act is one. -/
def Act.callOn? (f : String) : Act → Option ClientCall
  | .subscribe filter client _ => if filter = f then some ⟨client, .first⟩ else none
  | .unsubscribe filter client => if filter = f then some ⟨client, .last⟩ else none
  | _ => none

/-- The clients' calls on a filter, in order. -/
def clientCalls (f : String) (acts : List Act) : List ClientCall := acts.filterMap (·.callOn? f)

/-- The clients that hold a filter after acts. -/
def holding (f : String) (acts : List Act) : Set String := ClientCall.holding (clientCalls f acts)

/-- Whether every client subscribes to each filter and gives it up in turn. -/
def InTurn (acts : List Act) : Prop := ∀ f, ClientCall.InTurn (clientCalls f acts)

/-- Without their names the clients' calls on a filter are those that the tracker gets. -/
theorem map_turn_clientCalls (f : String) (acts : List Act) :
    (clientCalls f acts).map ClientCall.turn = (requests acts).filterMap (·.turnOn? f) := by
  rw [clientCalls, requests, List.map_filterMap, List.filterMap_filterMap]
  refine List.filterMap_congr fun act _ => ?_
  cases act with
  | subscribe filter client qos =>
    simp only [Act.callOn?, Act.request?, Option.bind_some, Tracker.Request.turnOn?]
    split <;> rfl
  | unsubscribe filter client =>
    simp only [Act.callOn?, Act.request?, Option.bind_some, Tracker.Request.turnOn?]
    split <;> rfl
  | _ => rfl

variable {engine : Engine} {listener : Listener} {options : ListenOptions}
  {cleanup : CleanupOptions} {b : Broker} {notes : List Note} {acts : List Act}

/-- The tracker of a run counts what the clients hold. -/
theorem counts_run (created : create engine listener options cleanup = .ok (b, notes))
    (watches : listener.Watches) (inTurn : InTurn acts) :
    ∃ history, Counts (b.run acts).1.tracker history ∧
      ∀ f, (holding f acts).Finite ∧ tally f history = (holding f acts).ncard := by
  rw [tracker_run, tracker_of_create created]
  refine ⟨_, Tracker.counts_run listener cleanup (requests acts), fun f => ?_⟩
  rw [tally, Tracker.callsOn_history_of_watches watches, ← map_turn_clientCalls]
  exact ClientCall.tally_eq_ncard_holding (inTurn f)

theorem holders_run (created : create engine listener options cleanup = .ok (b, notes))
    (watches : listener.Watches) (inTurn : InTurn acts) (f : String) :
    (holding f acts).Finite ∧
      (b.run acts).1.tracker.ledger.holders f = (holding f acts).ncard := by
  obtain ⟨history, hcounts, htally⟩ := counts_run created watches inTurn
  exact ⟨(htally f).1, (hcounts.holders f).trans (htally f).2⟩

theorem hasAudience_run (created : create engine listener options cleanup = .ok (b, notes))
    (watches : listener.Watches) (inTurn : InTurn acts) (topic : String) :
    (b.run acts).1.tracker.hasAudience topic = true ↔
      ∃ f, 0 < (holding f acts).ncard ∧ Topic.covers f topic = true := by
  obtain ⟨history, hcounts, htally⟩ := counts_run created watches inTurn
  simp only [hcounts.hasAudience_iff, htally]

/-- Where clients subscribe and unsubscribe in turn, a broker has an audience for a topic exactly if
some client holds a filter that covers it, and the count of a filter is the number of clients that
hold it, in whatever order all this happens and whatever else does. Neither depends on the names of
the clients or the qualities of service, nor on anything but how many hold each filter. -/
theorem audience_iff_client_holds
    (created : create engine listener options cleanup = .ok (b, notes))
    (watches : listener.Watches) (inTurn : InTurn acts) :
    let last := (b.run acts).1.tracker
    (∀ topic, last.hasAudience topic = true ↔
        ∃ f client, client ∈ holding f acts ∧ Topic.covers f topic = true) ∧
      (∀ f, (holding f acts).Finite ∧
        (last.ledger.count? f).getD 0 = (holding f acts).ncard) ∧
      (∀ renamed, renamed.map Act.unnamed = acts.map Act.unnamed →
        (b.run renamed).1.tracker = last) ∧
      ∀ more, InTurn more → (∀ f, (holding f more).ncard = (holding f acts).ncard) →
        let other := (b.run more).1.tracker
        (∀ topic, other.hasAudience topic = last.hasAudience topic) ∧
          ∀ f, (other.ledger.count? f).getD 0 = (last.ledger.count? f).getD 0 := by
  have hheld : ∀ f, (holding f acts).Finite := fun f => (holders_run created watches inTurn f).1
  refine ⟨fun topic => ?_, holders_run created watches inTurn,
    fun renamed h => tracker_run_of_unnamed_eq b h, fun more hmore hsame => ⟨fun topic => ?_, ?_⟩⟩
  · rw [hasAudience_run created watches inTurn]
    simp only [Set.ncard_pos (hheld _), Set.Nonempty, exists_and_right]
  · rw [Bool.eq_iff_iff, hasAudience_run created watches hmore,
      hasAudience_run created watches inTurn]
    simp only [hsame]
  · intro f
    have hcount := (holders_run created watches inTurn f).2
    have hother := (holders_run created watches hmore f).2
    exact hother.trans ((hsame f).trans hcount.symm)

/-- Two clients share a filter, and it keeps its audience when one of them leaves. -/
theorem audience_of_shared_filter :
    let b : Broker := ⟨{}, {}, (Tracker.create .silent {}).1⟩
    let acts : List Act := [.subscribe "blocks/+" "wallet" 0, .sleep 1000000,
      .subscribe "blocks/+" "explorer" 1, .query "blocks/latest", .unsubscribe "blocks/+" "wallet",
      .sweep]
    create {} .silent {} {} = .ok (b, [.websocketListening "localhost:1888"]) ∧
      Listener.silent.Watches ∧ InTurn acts ∧
      (b.run acts).1.tracker.hasAudience "blocks/latest" = true ∧
      ((b.run acts).1.tracker.ledger.count? "blocks/+").getD 0 = (holding "blocks/+" acts).ncard := by
  intro b acts
  have hinTurn : InTurn acts := by
    intro f client
    by_cases hf : "blocks/+" = f
    · by_cases hwallet : "wallet" = client
      · subst hf hwallet
        decide
      · by_cases hexplorer : "explorer" = client
        · subst hf hexplorer
          decide
        · simp [acts, clientCalls, ClientCall.turnsBy, Act.callOn?, hf, hwallet, hexplorer,
            Turn.AlternatesFrom]
    · simp [acts, clientCalls, ClientCall.turnsBy, Act.callOn?, hf, Turn.AlternatesFrom]
  have hcreate : create {} .silent {} {} = .ok (b, [.websocketListening "localhost:1888"]) := rfl
  have hexplorer : "explorer" ∈ holding "blocks/+" acts := ClientCall.mem_holding.2 (by decide)
  obtain ⟨haudience, hcount, -⟩ :=
    audience_iff_client_holds hcreate Listener.watches_silent hinTurn
  exact ⟨hcreate, Listener.watches_silent, hinTurn,
    (haudience _).2 ⟨"blocks/+", "explorer", hexplorer, by decide⟩, (hcount _).2⟩

end Broker

end Audience
