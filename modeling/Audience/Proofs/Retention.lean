import Audience.Proofs.Counts

/-!
# How long a filter is tracked

A filter that was ever subscribed to stays tracked while it has holders, and
from the instant on at which it lost the last of them until a sweep comes a
grace period or more after that instant (`Retained`). `EmptiedLast` finds the
instant in a history: the latest call on the filter that left no holder. Later
calls that found nobody to go are no such calls, so they neither restart nor
extend the grace period.
-/

namespace Audience

/-- Whether an event takes the last holder of a filter, coming after `before`. -/
def Empties (f : String) (before : List Event) (event : Event) : Prop :=
  event.turnOn? f = some .last ∧ tally f before = 1

/-- Whether a filter lost its last holder at the instant `since`, the latest time that it did, and
`later` is what happened from then on. -/
def EmptiedLast (f : String) (history : List Event) (since : Nat) (later : List Event) : Prop :=
  ∃ before event, history = before ++ event :: later ∧ Empties f before event ∧
    event.instant = since ∧
    ∀ between next rest, later = between ++ next :: rest →
      ¬ Empties f (before ++ event :: between) next

/-- Whether a filter is to be tracked after a history: somebody subscribed to it, and it has
holders or no sweep came `threshold` or more after it lost the last of them. -/
def Retained (threshold : Nat) (f : String) (history : List Event) : Prop :=
  .first ∈ callsOn f history ∧
    (0 < tally f history ∨
      ∀ since later, EmptiedLast f history since later →
        ∀ now, .sweep now ∈ later → now < since + threshold)

/-! ## One more event -/

variable {threshold : Nat} {f : String} {history later : List Event} {event : Event} {since : Nat}

theorem callsOn_singleton (f : String) (event : Event) :
    callsOn f [event] = (event.turnOn? f).toList := by
  rw [callsOn, List.filterMap_cons]
  cases event.turnOn? f <;> rfl

theorem tally_concat (f : String) (history : List Event) (event : Event) :
    tally f (history ++ [event]) = Turn.tally (tally f history) (event.turnOn? f).toList := by
  rw [tally_append, callsOn_singleton]

theorem first_mem_of_tally_pos (h : 0 < tally f history) : .first ∈ callsOn f history := by
  have := Turn.tally_le_count 0 (callsOn f history)
  rw [tally] at h
  exact List.count_pos_iff.1 (by omega)

/-- Where a list with one more item at its end can be cut: before the new item or earlier. -/
theorem concat_eq_append_cons {α : Type} {history before after : List α} {event last : α} :
    history ++ [last] = before ++ event :: after ↔
      before = history ∧ event = last ∧ after = [] ∨
        ∃ earlier, after = earlier ++ [last] ∧ history = before ++ event :: earlier := by
  constructor
  · intro h
    rcases List.eq_nil_or_concat' after with rfl | ⟨earlier, e, rfl⟩
    · obtain ⟨hhistory, hlast⟩ := List.append_inj' h rfl
      exact .inl ⟨hhistory.symm, (List.singleton_inj.1 hlast).symm, rfl⟩
    · rw [← List.cons_append, ← List.append_assoc] at h
      obtain ⟨hhistory, hlast⟩ := List.append_inj' h rfl
      exact .inr ⟨earlier, by rw [List.singleton_inj.1 hlast], hhistory⟩
  · rintro (⟨rfl, rfl, rfl⟩ | ⟨earlier, rfl, rfl⟩)
    · rfl
    · rw [List.append_assoc, List.cons_append]

/-- The latest loss of the last holder is the new event, or else the one before it. -/
theorem emptiedLast_concat :
    EmptiedLast f (history ++ [event]) since later ↔
      Empties f history event ∧ event.instant = since ∧ later = [] ∨
        ¬ Empties f history event ∧
          ∃ earlier, later = earlier ++ [event] ∧ EmptiedLast f history since earlier := by
  constructor
  · rintro ⟨before, loss, hcut, hempties, hinstant, hlatest⟩
    rcases concat_eq_append_cons.1 hcut with ⟨rfl, rfl, rfl⟩ | ⟨earlier, rfl, rfl⟩
    · exact .inl ⟨hempties, hinstant, rfl⟩
    · refine .inr ⟨hlatest earlier event [] rfl, earlier, rfl, before, loss, rfl, hempties,
        hinstant, fun between next rest hnext => ?_⟩
      exact hlatest between next (rest ++ [event]) (by rw [hnext, List.append_assoc]; rfl)
  · rintro (⟨hempties, hinstant, rfl⟩ | ⟨hnot, earlier, rfl, before, loss, rfl, hempties,
      hinstant, hlatest⟩)
    · exact ⟨history, event, rfl, hempties, hinstant, fun _ _ _ h =>
        absurd h.symm (List.append_ne_nil_of_right_ne_nil _ (List.cons_ne_nil _ _))⟩
    · refine ⟨before, loss, by rw [List.append_assoc]; rfl, hempties, hinstant,
        fun between next rest hnext => ?_⟩
      rcases concat_eq_append_cons.1 hnext with ⟨rfl, rfl, rfl⟩ | ⟨rest, rfl, hearlier⟩
      · exact hnot
      · exact hlatest between next rest hearlier

theorem not_emptiedLast_nil : ¬ EmptiedLast f [] since later := by
  rintro ⟨before, loss, hcut, -⟩
  exact absurd hcut.symm (List.append_ne_nil_of_right_ne_nil _ (List.cons_ne_nil _ _))

theorem emptiedLast_unique {since' : Nat} {later' : List Event}
    (h : EmptiedLast f history since later) (h' : EmptiedLast f history since' later') :
    since = since' := by
  induction history using List.reverseRecOn generalizing later later' with
  | nil => exact absurd h not_emptiedLast_nil
  | append_singleton history event ih =>
    rcases emptiedLast_concat.1 h with ⟨hempties, rfl, -⟩ | ⟨hnot, earlier, -, hbefore⟩ <;>
      rcases emptiedLast_concat.1 h' with ⟨hempties', rfl, -⟩ | ⟨hnot', earlier', -, hbefore'⟩
    · rfl
    · exact absurd hempties hnot'
    · exact absurd hempties' hnot
    · exact ih hbefore hbefore'

/-- Since the latest loss of the last holder there is none exactly if nobody subscribed. -/
theorem tally_eq_zero_iff_of_emptiedLast (h : EmptiedLast f history since later) :
    tally f history = 0 ↔ .first ∉ callsOn f later := by
  induction history using List.reverseRecOn generalizing later with
  | nil => exact absurd h not_emptiedLast_nil
  | append_singleton history event ih =>
    rw [tally_concat]
    rcases emptiedLast_concat.1 h with ⟨⟨hturn, hone⟩, -, rfl⟩ | ⟨hnot, earlier, rfl, hbefore⟩
    · simp [hturn, hone, Turn.adjust, callsOn]
    · rw [callsOn_append, callsOn_singleton, List.mem_append, not_or, ← ih hbefore]
      rcases hturn : event.turnOn? f with _ | _ | _
      · simp
      · simp [Turn.adjust]
      · have : tally f history ≠ 1 := fun hone => hnot ⟨hturn, hone⟩
        simp only [Option.toList_some, Turn.tally_cons, Turn.tally_nil, Turn.adjust,
          List.mem_singleton, reduceCtorEq, not_false_eq_true, and_true]
        omega

theorem retained_of_tally_pos (h : 0 < tally f history) : Retained threshold f history :=
  ⟨first_mem_of_tally_pos h, .inl h⟩

/-- A filter that has just lost its last holder is retained: no sweep came since. -/
theorem retained_of_empties (h : Empties f history event) :
    Retained threshold f (history ++ [event]) := by
  refine ⟨?_, .inr fun since later hlast now hnow => ?_⟩
  · rw [callsOn_append]
    exact List.mem_append_left _ (first_mem_of_tally_pos (by rw [h.2]; exact Nat.one_pos))
  · rcases emptiedLast_concat.1 hlast with ⟨-, -, rfl⟩ | ⟨hnot, -⟩
    · exact absurd hnow List.not_mem_nil
    · exact absurd h hnot

/-- An event that is no call on a filter, or the end of a subscription that is not there, matters
only if it is a sweep that comes late enough. -/
theorem retained_concat_iff
    (hquiet : event.turnOn? f = none ∨ event.turnOn? f = some .last ∧ tally f history = 0) :
    Retained threshold f (history ++ [event]) ↔
      Retained threshold f history ∧
        (0 < tally f history ∨
          ∀ since later, EmptiedLast f history since later →
            ∀ now, event = .sweep now → now < since + threshold) := by
  have hnot : ¬ Empties f history event := by
    rintro ⟨hturn, hone⟩
    rcases hquiet with h | ⟨-, h⟩
    · simp [h] at hturn
    · omega
  have htally : tally f (history ++ [event]) = tally f history := by
    rw [tally_concat]
    rcases hquiet with h | ⟨h, hzero⟩
    · simp [h]
    · simp [h, hzero, Turn.adjust]
  have hfirst : .first ∈ callsOn f (history ++ [event]) ↔ .first ∈ callsOn f history := by
    rw [callsOn_append, callsOn_singleton]
    rcases hquiet with h | ⟨h, -⟩ <;> simp [h]
  rw [Retained, Retained, htally, hfirst, and_assoc, ← or_and_left]
  refine and_congr_right fun _ => or_congr_right ⟨fun h => ⟨?_, ?_⟩, ?_⟩
  · intro since later hlast now hnow
    exact h since (later ++ [event]) (emptiedLast_concat.2 (.inr ⟨hnot, later, rfl, hlast⟩)) now
      (List.mem_append_left _ hnow)
  · rintro since later hlast now rfl
    exact h since (later ++ [.sweep now]) (emptiedLast_concat.2 (.inr ⟨hnot, later, rfl, hlast⟩))
      now (List.mem_append_right _ (List.mem_singleton_self _))
  · rintro ⟨hbefore, hevent⟩ since later hlast now hnow
    rcases emptiedLast_concat.1 hlast with ⟨h, -⟩ | ⟨-, earlier, rfl, hsame⟩
    · exact absurd h hnot
    · rcases List.mem_append.1 hnow with hnow | hnow
      · exact hbefore since earlier hsame now hnow
      · exact hevent since earlier hsame now (List.mem_singleton.1 hnow).symm

/-! ## The ledger -/

namespace Ledger

/-- What a call on a filter leaves of the entry of that filter or another. -/
theorem find?_apply_call (l : Ledger) (now : Nat) (turn : Turn) (filter f : String) (told : Bool) :
    (l.apply threshold (.call now turn filter told)).find? f =
      if filter = f then
        match turn with
        | .first => some ⟨f, l.holders f + 1, none⟩
        | .last => (l.find? f).map (·.released now)
      else l.find? f := by
  cases turn with
  | first => exact find?_subscribe l filter f
  | last => exact find?_unsubscribe l now filter f

/-- An idle entry is so since its filter lost its last holder the latest time. -/
theorem emptiedLast_of_idleSince {e : Entry} (hfind : (ofHistory threshold history).find? f = some e)
    (hidle : e.idleSince = some since) : ∃ later, EmptiedLast f history since later := by
  -- A mark stays until a call on its filter, and only the loss of the last holder sets one.
  induction history using List.reverseRecOn generalizing e with
  | nil => exact absurd hfind (by simp [find?])
  | append_singleton history event ih =>
    rw [ofHistory_concat] at hfind
    have hkeep {d : Entry} (hnot : ¬ Empties f history event)
        (hbefore : (ofHistory threshold history).find? f = some d)
        (hmark : d.idleSince = some since) :
        ∃ later, EmptiedLast f (history ++ [event]) since later := by
      obtain ⟨later, hlast⟩ := ih hbefore hmark
      exact ⟨later ++ [event], emptiedLast_concat.2 (.inr ⟨hnot, later, rfl, hlast⟩)⟩
    cases event with
    | sweep now =>
      rw [apply, find?_sweep (sound_ofHistory ..), Option.filter_eq_some_iff] at hfind
      exact hkeep (fun h => by cases h.1) hfind.1 hidle
    | call now turn filter told =>
      rw [find?_apply_call] at hfind
      by_cases hf : filter = f
      · rw [if_pos hf] at hfind
        cases turn with
        | first =>
          obtain rfl := Option.some.inj hfind
          cases hidle
        | last =>
          obtain ⟨d, hbefore, rfl⟩ := Option.map_eq_some_iff.1 hfind
          have hheld : tally f history = d.holders := by
            rw [← holders_ofHistory threshold, holders_of_find? hbefore]
          by_cases hone : d.holders = 1
          · obtain rfl : now = since := by simpa [Entry.released, hone] using hidle
            exact ⟨[], emptiedLast_concat.2 (.inl ⟨⟨if_pos hf, hheld.trans hone⟩, rfl, rfl⟩)⟩
          · refine hkeep (fun h => hone (hheld.symm.trans h.2)) hbefore ?_
            simpa [Entry.released, hone] using hidle
      · rw [if_neg hf] at hfind
        exact hkeep (fun h => by cases (if_neg hf).symm.trans h.1) hfind hidle

theorem since_le {now : Nat} (hsorted : InOrder (history ++ [.sweep now]))
    (h : EmptiedLast f history since later) : since ≤ now := by
  obtain ⟨before, loss, rfl, -, rfl, -⟩ := h
  exact (List.pairwise_append.1 hsorted).2.2 loss (by simp) _ (List.mem_singleton_self _)

/-- A sweep keeps a filter that has holders, and one that lost them too short a time ago. -/
theorem not_isStale_iff {e : Entry} {now : Nat} (hsorted : InOrder (history ++ [.sweep now]))
    (hfind : (ofHistory threshold history).find? f = some e) :
    ¬ e.isStale now threshold = true ↔ 0 < tally f history ∨
      ∀ since later, EmptiedLast f history since later → now < since + threshold := by
  rw [← holders_ofHistory threshold, holders_of_find? hfind]
  rcases Nat.eq_zero_or_pos e.holders with hfree | hheld
  · obtain ⟨since, hidle⟩ := exists_idleSince (sound_ofHistory ..) hfind hfree
    obtain ⟨later, hlast⟩ := emptiedLast_of_idleSince hfind hidle
    have hle := since_le hsorted hlast
    rw [Entry.isStale_of_idle hidle hfree, hfree, decide_eq_true_eq]
    constructor
    · intro hfresh
      refine .inr fun since' later' hlast' => ?_
      obtain rfl := emptiedLast_unique hlast hlast'
      omega
    · rintro (h | h)
      · exact absurd h (Nat.lt_irrefl 0)
      · have := h since later hlast
        omega
  · exact ⟨fun _ => .inl hheld, fun _ hstale => by
      rw [Entry.holders_of_isStale hstale] at hheld
      exact absurd hheld (Nat.lt_irrefl 0)⟩

/-- A sweep keeps what it is to keep. -/
theorem isSome_find?_concat_sweep_iff {now : Nat} (hsorted : InOrder (history ++ [.sweep now]))
    (h : ((ofHistory threshold history).find? f).isSome ↔ Retained threshold f history) :
    ((ofHistory threshold (history ++ [.sweep now])).find? f).isSome ↔
      Retained threshold f (history ++ [.sweep now]) := by
  rw [retained_concat_iff (.inl rfl), ← h, ofHistory_concat, apply, find?_sweep (sound_ofHistory ..)]
  cases hfind : (ofHistory threshold history).find? f with
  | none => simp
  | some e =>
    have hfresh := not_isStale_iff hsorted hfind
    simp only [Option.isSome_filter, Option.any_some, Bool.not_eq_true', Option.isSome_some,
      true_and, Event.sweep.injEq, forall_eq']
    rwa [← Bool.not_eq_true]

/-- A call keeps every filter, and makes its own if it is one holder more. -/
theorem isSome_find?_concat_call_iff {now : Nat} {turn : Turn} {filter : String} {told : Bool}
    (h : ((ofHistory threshold history).find? f).isSome ↔ Retained threshold f history) :
    ((ofHistory threshold (history ++ [.call now turn filter told])).find? f).isSome ↔
      Retained threshold f (history ++ [.call now turn filter told]) := by
  rw [ofHistory_concat, find?_apply_call]
  by_cases hf : filter = f
  · subst hf
    rw [if_pos rfl]
    cases turn with
    | first =>
      refine iff_of_true rfl (retained_of_tally_pos ?_)
      rw [tally_concat]
      simp [Event.turnOn?, Turn.adjust]
    | last =>
      have hturn : Event.turnOn? filter (.call now .last filter told) = some .last := if_pos rfl
      have htracked : 0 < tally filter history → ((ofHistory threshold history).find? filter).isSome :=
        fun hheld => h.2 (retained_of_tally_pos hheld)
      rw [Option.isSome_map]
      -- With no holder the call comes to nothing, with one it empties the filter.
      rcases Nat.lt_trichotomy (tally filter history) 1 with hn | hn | hn
      · have hzero : tally filter history = 0 := by omega
        rw [retained_concat_iff (.inr ⟨hturn, hzero⟩), ← h]
        simp
      · exact iff_of_true (htracked (by omega)) (retained_of_empties ⟨hturn, hn⟩)
      · refine iff_of_true (htracked (by omega)) (retained_of_tally_pos ?_)
        rw [tally_concat, hturn]
        simp only [Option.toList_some, Turn.tally_cons, Turn.tally_nil, Turn.adjust]
        omega
  · have hturn : Event.turnOn? f (.call now turn filter told) = none := if_neg hf
    rw [if_neg hf, retained_concat_iff (.inl hturn), ← h]
    simp

/-- A filter is tracked by the ledger of a history exactly if it is to be. -/
theorem isSome_find?_ofHistory_iff (hsorted : InOrder history) (f : String) :
    ((ofHistory threshold history).find? f).isSome ↔ Retained threshold f history := by
  induction history using List.reverseRecOn with
  | nil => simp [find?, Retained, callsOn]
  | append_singleton history event ih =>
    have hbefore := ih (List.pairwise_append.1 hsorted).1
    cases event with
    | sweep now => exact isSome_find?_concat_sweep_iff hsorted hbefore
    | call now turn filter told => exact isSome_find?_concat_call_iff hbefore

/-! ## What that comes to -/

/-- The end of a subscription that is not there changes nothing, nor when a filter turned idle. -/
theorem ofHistory_concat_of_free (hturn : event.turnOn? f = some .last) (hfree : tally f history = 0) :
    ofHistory threshold (history ++ [event]) = ofHistory threshold history := by
  obtain ⟨now, told, rfl⟩ := Event.turnOn?_eq_some_iff.1 hturn
  rw [ofHistory_concat]
  exact unsubscribe_of_free (by rw [holders_ofHistory, hfree]) now

/-- The end of a subscription neither makes an entry nor removes one. -/
theorem isSome_find?_concat_of_last (hturn : event.turnOn? f = some .last) (g : String) :
    ((ofHistory threshold (history ++ [event])).find? g).isSome =
      ((ofHistory threshold history).find? g).isSome := by
  obtain ⟨now, told, rfl⟩ := Event.turnOn?_eq_some_iff.1 hturn
  rw [ofHistory_concat, find?_apply_call]
  by_cases hf : f = g
  · rw [if_pos hf, Option.isSome_map]
  · rw [if_neg hf]

/-- Only a sweep removes a filter, and only one that has had no holder for the grace period, with
nobody subscribing in between. -/
theorem removed_by_sweep (hsorted : InOrder (history ++ [event]))
    (hbefore : ((ofHistory threshold history).find? f).isSome)
    (hafter : (ofHistory threshold (history ++ [event])).find? f = none) :
    ∃ now since later, event = .sweep now ∧ EmptiedLast f history since later ∧
      .first ∉ callsOn f later ∧ since + threshold ≤ now := by
  have hgone := mt (isSome_find?_ofHistory_iff hsorted f).2 (by rw [hafter]; exact Bool.false_ne_true)
  have hkept := (isSome_find?_ofHistory_iff (List.pairwise_append.1 hsorted).1 f).1 hbefore
  match event with
  | .sweep now =>
    rw [retained_concat_iff (.inl rfl)] at hgone
    simp only [hkept, true_and, not_or, not_forall, Event.sweep.injEq, forall_eq', not_lt] at hgone
    obtain ⟨hfree, since, later, hlast, hle⟩ := hgone
    have hquiet := (tally_eq_zero_iff_of_emptiedLast hlast).1 (by omega)
    exact ⟨now, since, later, rfl, hlast, hquiet, hle⟩
  | .call now turn filter told =>
    rw [ofHistory_concat, find?_apply_call] at hafter
    have hsome : (ofHistory threshold history).find? f ≠ none := Option.isSome_iff_ne_none.1 hbefore
    split at hafter
    · cases turn with
      | first => exact nomatch hafter
      | last => exact absurd (Option.map_eq_none_iff.1 hafter) hsome
    · exact absurd hafter hsome

end Ledger

namespace Tracker

/-- After any run a filter is tracked, and counted in the size, exactly if it is to be after the
history of the run. Within the history a filter is removed by nothing but a sweep that comes a grace
period or more after the filter lost its last holder, with nobody subscribing in between. The end of
a subscription that is not there leaves everything as it was, and that of one that is neither makes
an entry nor removes one. -/
theorem tracked_run_iff_retained (listener : Listener) (options : CleanupOptions)
    (requests : List Request) :
    let start := (create listener options).1
    let history := start.history requests
    let last := (start.run requests).1.ledger
    let after := Ledger.ofHistory options.threshold
    last = after history ∧
      (∀ f, (last.find? f).isSome ↔ Retained options.threshold f history) ∧
      last.size = {f | Retained options.threshold f history}.ncard ∧
      ∀ before event rest, history = before ++ event :: rest →
        (∀ f, ((after before).find? f).isSome → (after (before ++ [event])).find? f = none →
          ∃ now since later, event = .sweep now ∧ EmptiedLast f before since later ∧
            .first ∉ callsOn f later ∧ since + options.threshold ≤ now) ∧
        (∀ f, event.turnOn? f = some .last →
          (tally f before = 0 → after (before ++ [event]) = after before) ∧
          ∀ g, ((after (before ++ [event])).find? g).isSome = ((after before).find? g).isSome) := by
  intro start history last after
  have haccounts : Accounts start.keeper (start.run requests).1.keeper _ history :=
    accounts_run start requests
  have hlast : last = after history := haccounts.ledger
  have htracked (f : String) : (last.find? f).isSome ↔ Retained options.threshold f history := by
    rw [hlast]
    exact Ledger.isSome_find?_ofHistory_iff haccounts.sorted f
  refine ⟨hlast, htracked, ?_, fun before event rest hcut => ⟨fun f hbefore hgone => ?_, ?_⟩⟩
  · rw [Ledger.size_eq_ncard (hlast ▸ Ledger.sound_ofHistory ..)]
    simp only [htracked]
  · have hsorted : InOrder ((before ++ [event]) ++ rest) := by
      rw [List.append_assoc, List.singleton_append, ← hcut]
      exact haccounts.sorted
    exact Ledger.removed_by_sweep (List.pairwise_append.1 hsorted).1 hbefore hgone
  · exact fun f hturn => ⟨Ledger.ofHistory_concat_of_free hturn,
      Ledger.isSome_find?_concat_of_last hturn⟩

end Tracker

end Audience
