import Audience.Proofs.Clients
import Audience.Proofs.Gate
import Audience.Proofs.Moments

/-!
# Endings reported twice

An engine may report the end of a subscription twice. A tracker keeps no more
than a number for each filter, so it passes the second report over when nobody
is left (`Tracker.unsubscribe_of_free`) and cannot tell it from the end of
somebody else's subscription when somebody is (`Tracker.unsubscribe_of_watches`).
`Broker.repeat_absorbed_of_nobody_left` says what that comes to where clients
subscribe and unsubscribe in turn: with others left the count falls short by
one, and if that one was the only one its listener is told of a last holder
while a client still holds the filter (`Broker.repeat_ends_another`).
-/

namespace Audience

namespace Tracker

/-- A call that does not turn the audience of its filter is counted and no more. -/
theorem change_of_not_turned {t : Tracker} {turn : Turn} {filter : String}
    (h : (t.count turn filter).2 = false) (depth : Nat) :
    t.change (depth + 1) turn filter = { tracker := (t.count turn filter).1 } := by
  simp only [change, h, Bool.false_eq_true, if_false]

/-- The end of a subscription that nobody has is passed over. -/
theorem unsubscribe_of_free {t : Tracker} {filter : String} (h : t.ledger.holders filter = 0) :
    t.unsubscribe filter = { tracker := t } := by
  have hturned : (t.count .last filter).2 = false := by
    rw [turned_count, h]
    rfl
  have hcount : (t.count .last filter).1 = t := by
    have hledger : (t.ledger.unsubscribe t.clock filter).1 = t.ledger :=
      Ledger.unsubscribe_of_free h t.clock
    exact congrArg (fun ledger => { t with keeper := { t.keeper with ledger } }) hledger
  exact (change_of_not_turned hturned (nestingLimit - 1)).trans (by rw [hcount])

/-- The end of a subscription with a listener that watches. -/
theorem unsubscribe_of_watches {t : Tracker} (watches : t.listener.Watches) (filter : String) :
    (∀ f, (t.unsubscribe filter).tracker.ledger.holders f =
        if filter = f then t.ledger.holders f - 1 else t.ledger.holders f) ∧
      turnedIn (t.unsubscribe filter).notes =
        if t.ledger.holders filter = 1 then [⟨.last, filter⟩] else [] := by
  obtain ⟨htracker, htold⟩ := change_of_watches watches (nestingLimit - 1) .last filter
  refine ⟨fun f => ?_, htold.trans ?_⟩
  · exact (congrArg (·.ledger.holders f) htracker).trans (Ledger.holders_unsubscribe ..)
  · rw [turned_count]
    simp only [Turn.turnsAt, beq_iff_eq]

end Tracker

namespace Broker

variable {engine : Engine} {listener : Listener} {options : ListenOptions}
  {cleanup : CleanupOptions} {b : Broker} {notes : List Note} {acts : List Act}

/-- A reached broker has the listener that it was made with. -/
theorem listener_run (created : create engine listener options cleanup = .ok (b, notes))
    (acts : List Act) : (b.run acts).1.tracker.listener = listener := by
  rw [tracker_run, Tracker.listener_run, tracker_of_create created]
  rfl

/-- A report of an ending that nobody is there for is noted and no more. -/
theorem act_unsubscribe_of_free {filter : String} (h : b.tracker.ledger.holders filter = 0)
    (client : String) :
    b.act (.unsubscribe filter client) = (b, [.clientUnsubscribed client filter]) := by
  simp only [act, clientUnsubscribed, Tracker.unsubscribe_of_free h]
  rfl

/-- What one report of an ending changes with a listener that watches. -/
theorem act_unsubscribe_of_watches (watches : b.tracker.listener.Watches) (filter client : String) :
    (∀ f, (b.act (.unsubscribe filter client)).1.tracker.ledger.holders f =
        if filter = f then b.tracker.ledger.holders f - 1 else b.tracker.ledger.holders f) ∧
      turnedIn (b.act (.unsubscribe filter client)).2 =
        if b.tracker.ledger.holders filter = 1 then [⟨.last, filter⟩] else [] :=
  Tracker.unsubscribe_of_watches watches filter

/-! ## Endings in turn -/

/-- What clients do in turn they did in turn up to any point. -/
theorem InTurn.of_concat {act : Act} (h : InTurn (acts ++ [act])) : InTurn acts := by
  intro f
  have hcalls : clientCalls f (acts ++ [act]) = clientCalls f acts ++ (act.callOn? f).toList := by
    rw [clientCalls, List.filterMap_append]
    cases hcall : act.callOn? f with
    | none => simp [clientCalls, hcall]
    | some call => simp [clientCalls, hcall]
  have hturn := h f
  rw [hcalls] at hturn
  cases hcall : act.callOn? f with
  | none => simpa [hcall] using hturn
  | some call =>
    rw [hcall] at hturn
    exact hturn.of_concat

/-- Two clients share a filter and leave it one after the other. -/
theorem inTurn_of_two_leaving (f first second : String) (hne : first ≠ second) :
    InTurn [.subscribe f first 0, .subscribe f second 0, .unsubscribe f first,
      .unsubscribe f second] := by
  intro g client
  by_cases hg : f = g
  · subst hg
    by_cases hfirst : first = client
    · subst hfirst
      simp [clientCalls, ClientCall.turnsBy, Act.callOn?, Turn.AlternatesFrom, Turn.other, hne.symm]
    · by_cases hsecond : second = client
      · subst hsecond
        simp [clientCalls, ClientCall.turnsBy, Act.callOn?, Turn.AlternatesFrom, Turn.other, hne]
      · simp [clientCalls, ClientCall.turnsBy, Act.callOn?, Turn.AlternatesFrom, hfirst, hsecond]
  · simp [clientCalls, ClientCall.turnsBy, Act.callOn?, Turn.AlternatesFrom, hg]

/-! ## What a second report does -/

/-- Where clients subscribe and unsubscribe in turn, and the end of a client's subscription is
reported twice. If no other client holds the filter, the second report is noted and changes nothing,
then or in any later run. If others do, it counts as the end of a subscription of one of them: the
count of the filter falls to one less than there are clients that hold it, and if there is just one,
the listener is told that the last has left. -/
theorem repeat_absorbed_of_nobody_left
    (created : create engine listener options cleanup = .ok (b, notes))
    (watches : listener.Watches) {filter client : String}
    (inTurn : InTurn (acts ++ [.unsubscribe filter client])) :
    let ending : Act := .unsubscribe filter client
    let once := b.run (acts ++ [ending])
    let twice := once.1.act ending
    let others := holding filter (acts ++ [ending])
    (others = ∅ →
      twice = (once.1, [.clientUnsubscribed client filter]) ∧
      ∀ later,
        b.run (acts ++ ending :: later) =
          ((once.1.run later).1, once.2 ++ (once.1.run later).2) ∧
        b.run (acts ++ ending :: ending :: later) =
          ((once.1.run later).1,
            once.2 ++ .clientUnsubscribed client filter :: (once.1.run later).2)) ∧
    (others.Nonempty →
      (twice.1.tracker.ledger.count? filter).getD 0 + 1 = others.ncard ∧
      (∀ f, f ≠ filter → (twice.1.tracker.ledger.count? f).getD 0 =
        (holding f (acts ++ [ending])).ncard) ∧
      turnedIn twice.2 = if others.ncard = 1 then [⟨.last, filter⟩] else []) := by
  intro ending once twice others
  have hholders := holders_run created watches inTurn
  have hwatches : once.1.tracker.listener.Watches := by
    rw [listener_run created]
    exact watches
  obtain ⟨hcount, htold⟩ := act_unsubscribe_of_watches hwatches filter client
  refine ⟨fun hnobody => ?_, fun hsome => ⟨?_, fun f hf => ?_, ?_⟩⟩
  · have hfree : once.1.tracker.ledger.holders filter = 0 := by
      rw [(hholders filter).2, Set.ncard_eq_zero (hholders filter).1]
      exact hnobody
    have htwice : twice = (once.1, [.clientUnsubscribed client filter]) :=
      act_unsubscribe_of_free hfree client
    refine ⟨htwice, fun later => ?_⟩
    obtain ⟨honce, hagain⟩ :=
      run_insert_of_same b (acts ++ [ending]) later (congrArg (·.1) htwice : twice.1 = once.1)
    rw [show (b.run (acts ++ [ending])).1.act ending = _ from htwice] at hagain
    rw [List.append_cons, List.append_cons acts ending (ending :: later)]
    exact ⟨honce, hagain⟩
  · have hpos := (Set.ncard_pos (hholders filter).1).2 hsome
    have hfewer := hcount filter
    rw [if_pos rfl, (hholders filter).2] at hfewer
    exact (congrArg (· + 1) hfewer).trans (Nat.sub_add_cancel hpos)
  · have hsame := hcount f
    rw [if_neg (Ne.symm hf), (hholders f).2] at hsame
    exact hsame
  · rw [(hholders filter).2] at htold
    exact htold

/-- The last of two clients leaves, which is reported twice. -/
theorem repeat_absorbed_of_two_left :
    let b : Broker := ⟨{}, {}, (Tracker.create .silent {}).1⟩
    let acts : List Act :=
      [.subscribe "a" "wallet" 0, .subscribe "a" "explorer" 0, .unsubscribe "a" "wallet"]
    let ending : Act := .unsubscribe "a" "explorer"
    create {} .silent {} {} = .ok (b, [.websocketListening "localhost:1888"]) ∧
      Listener.silent.Watches ∧ InTurn (acts ++ [ending]) ∧
      holding "a" (acts ++ [ending]) = ∅ ∧
      (b.run (acts ++ [ending, ending])).1 = (b.run (acts ++ [ending])).1 := by
  intro b acts ending
  have hinTurn : InTurn (acts ++ [ending]) :=
    inTurn_of_two_leaving "a" "wallet" "explorer" (by decide)
  have hcreate : create {} .silent {} {} = .ok (b, [.websocketListening "localhost:1888"]) := rfl
  obtain ⟨habsorbed, -⟩ :=
    repeat_absorbed_of_nobody_left hcreate Listener.watches_silent hinTurn
  obtain ⟨hfinite, hcount⟩ := holders_run hcreate Listener.watches_silent hinTurn "a"
  have hfree : holding "a" (acts ++ [ending]) = ∅ :=
    (Set.ncard_eq_zero hfinite).1 (hcount.symm.trans (by decide))
  have hsame : (b.run (acts ++ [ending, ending])).1 = (b.run (acts ++ [ending])).1 := by
    rw [((habsorbed hfree).2 []).2]
    rfl
  exact ⟨hcreate, Listener.watches_silent, hinTurn, hfree, hsame⟩

/-- One of two clients leaves, which is reported twice: the other loses its audience, and the
listener is told that the last has left. -/
theorem repeat_ends_another :
    let b : Broker := ⟨{}, {}, (Tracker.create .silent {}).1⟩
    let acts : List Act := [.subscribe "a" "wallet" 0, .subscribe "a" "explorer" 0]
    let ending : Act := .unsubscribe "a" "wallet"
    let once := b.run (acts ++ [ending])
    let twice := b.run (acts ++ [ending, ending])
    InTurn (acts ++ [ending]) ∧ "explorer" ∈ holding "a" (acts ++ [ending]) ∧
      once.1.tracker.hasAudience "a" = true ∧ twice.1.tracker.hasAudience "a" = false ∧
      (once.1.offer "a" fun _ => []).1 = .ok true ∧ (twice.1.offer "a" fun _ => []).1 = .ok false ∧
      turnedIn once.2 = [⟨.first, "a"⟩] ∧ turnedIn twice.2 = [⟨.first, "a"⟩, ⟨.last, "a"⟩] :=
  ⟨(inTurn_of_two_leaving "a" "wallet" "explorer" (by decide)).of_concat,
    ClientCall.mem_holding.2 (by decide), by decide, by decide, by decide, by decide, by decide,
    by decide⟩

end Broker

end Audience
